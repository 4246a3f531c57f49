import KanasSensors.Input.Lookup
import KanasSensors.Reader.Slots
import KanasSensors.Accelerometer.Capacity
import KanasSensors.Accelerometer.Drain
import KanasSensors.Accelerometer.Failure
import KanasSensors.Accelerometer.Flush
import KanasSensors.Accelerometer.Independence
import KanasSensors.Accelerometer.Power
import KanasSensors.Accelerometer.Solicited
import KanasSensors.Accelerometer.Timestamps
import KanasSensors.Context.Accounting
import KanasSensors.Context.Advertised
import KanasSensors.Context.DelayText
import KanasSensors.Context.Delivery
import KanasSensors.Context.EmptyHanded
import KanasSensors.Context.Pending
import KanasSensors.Context.Process
import KanasSensors.Context.Rates
import KanasSensors.Context.Turns
import KanasSensors.Context.Waiting
import KanasSensors.Gralloc.Atomic
import KanasSensors.Gralloc.Attributes
import KanasSensors.Gralloc.Fences
import KanasSensors.Gralloc.YCbCr
import KanasSensors.Hub.Drained
import KanasSensors.Hub.Rest
import KanasSensors.Hub.Sequential
import KanasSensors.Suspend.Exit
