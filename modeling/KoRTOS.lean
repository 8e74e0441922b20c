import KoRTOS.Property.Blocking
import KoRTOS.Property.QueueFifo
import KoRTOS.Property.QueueWakeups
import KoRTOS.Property.SemaphoreTokens
import KoRTOS.Property.TimedBlocking
import KoRTOS.Property.QueueDeadline
import KoRTOS.Property.ExpiredTasks
import KoRTOS.Property.MutexOwnership
import KoRTOS.Property.OwnerPriority
import KoRTOS.Property.ExactInheritance
import KoRTOS.Property.InheritanceEquation
import KoRTOS.Property.MostUrgentRuns
import KoRTOS.Property.NextTask
import KoRTOS.Property.RoundRobin
import KoRTOS.Property.MutexLimit
import KoRTOS.Property.IdleTask
import KoRTOS.Property.WaitingOrder
import KoRTOS.Property.ReleaseOrder
import KoRTOS.Library.BlockStore
import KoRTOS.Port.ContextSwitch
import KoRTOS.Property.Transparency
import KoRTOS.Hal.Nvic
import KoRTOS.Property.InterruptEnable
import KoRTOS.Hal.Can
import KoRTOS.Property.CanRoundTrip
import KoRTOS.Hal.Usart
import KoRTOS.Library.Countdown
import KoRTOS.Hal.UsartSides
import KoRTOS.Property.UsartAgreement
import KoRTOS.Hal.Spi
import KoRTOS.Hal.SpiSides
import KoRTOS.Property.SpiTransfers
import KoRTOS.Hal.I2c
import KoRTOS.Hal.I2cSending
import KoRTOS.Property.I2cCompletion
import KoRTOS.Hal.CanTx
import KoRTOS.Hal.CanTxOrder
import KoRTOS.Property.CanCompletions
import KoRTOS.Property.TaskStacks
import KoRTOS.Property.CanTimeouts
import KoRTOS.Property.UsartEnables
import KoRTOS.Hal.CanInit
import KoRTOS.Hal.I2cInit
import KoRTOS.Library.Dividers
import KoRTOS.Property.I2cTiming
import KoRTOS.Hal.UsartInit
import KoRTOS.Property.UsartConfiguration
import KoRTOS.Property.BaudRate
import KoRTOS.Hal.Gpio
import KoRTOS.Property.GpioPins
import KoRTOS.Hal.Exti
import KoRTOS.Property.ExtiPending
import KoRTOS.Invariant.Placement
import KoRTOS.Hal.I2cReceiving
import KoRTOS.Hal.I2cPolling
import KoRTOS.Hal.I2cHandling
import KoRTOS.Hal.I2cInterrupts
import KoRTOS.Property.I2cAcknowledge
import KoRTOS.Library.Accesses
import KoRTOS.Hal.I2cServing
import KoRTOS.Property.LockOrder
import KoRTOS.Property.Progress
import KoRTOS.Property.FifoWaiting
import KoRTOS.Property.DroppedItems
import KoRTOS.Property.PriorityOrigin
import KoRTOS.Hal.CanRx
import KoRTOS.Property.CanReceptions
import KoRTOS.Hal.I2cErrors
import KoRTOS.Library.StickyFlags
import KoRTOS.Property.I2cErrorReports
import KoRTOS.Port.CriticalSection
import KoRTOS.Property.CriticalSections
import KoRTOS.Hal.UsartServing
import KoRTOS.Property.UsartReceptions
import KoRTOS.Hal.I2cTransmitting
import KoRTOS.Property.I2cTransmissions
import KoRTOS.Hal.CanFilter
import KoRTOS.Property.CanFilters
import KoRTOS.App.CanLoopback
import KoRTOS.Property.CanDelivery
import KoRTOS.Property.MutualExclusion
import KoRTOS.Property.PriorityInversion
import KoRTOS.Library.Synchronization
import KoRTOS.Property.ObjectSteps
import KoRTOS.Property.Refinement
import KoRTOS.Hal.CanSending
import KoRTOS.Property.CanSending
import KoRTOS.App.CanSharing
import KoRTOS.Property.CanSharing
