set_option autoImplicit false

namespace SecretResolver

structure Duration where
  seconds : UInt64
  nanoseconds : UInt32
  nanoseconds_lt : nanoseconds < 1000000000
  deriving DecidableEq, Repr

def Duration.ofSeconds (seconds : UInt64) : Duration where
  seconds
  nanoseconds := 0
  nanoseconds_lt := by decide

end SecretResolver
