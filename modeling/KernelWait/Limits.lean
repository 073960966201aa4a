import KernelWait.Duration

/-!
# Limits

The fixed bounds and defaults of the wait subsystem.
-/

namespace KernelWait.Limits

/-- The most objects one wait accepts, unless configured otherwise. -/
def maxObjects : Nat := 512

/-- The timeout value that never expires, whatever the flags say. -/
def infiniteTimeout : Int64 := Int64.maxValue

/-- How long a waiter spins before it parks. -/
def wakeSpin : Duration := .ofMicros 10

/-- How often a waiter spins before it parks. -/
def wakeMaxSpins : UInt32 := 100

/-- How long a waiter spins when latency matters. -/
def lowLatencySpin : Duration := .ofMicros 50

/-- How often a waiter spins when latency matters. -/
def lowLatencyMaxSpins : UInt32 := 500

/-- How many messages a port holds by default. -/
def portCapacity : Nat := 64

/-- How many bytes an endpoint buffers by default. -/
def endpointCapacity : Nat := 64 * 1024

/-- How many signals may be pending for one thread. -/
def maxPendingSignals : Nat := 32

/-- The number of ticket slots from which on no table can be allocated. -/
def ticketSlots : Nat := 0x4000000000000000

end KernelWait.Limits
