import KeyCustody.Tag
import KeyCustody.FunctionKey
import KeyCustody.Pool.Config

/-!
# Errors

The two families of errors and their messages. Memory errors come from pools, allocators and
sensitive buffers; key errors come from the registry, key binding, signing, verification and key
resolution, and carry memory errors through unchanged, message included.
-/

namespace KeyCustody

/-- What can no longer be used once disposed. -/
inductive Resource where
  | pool
  | memory
  deriving DecidableEq, Repr

/-- How a disposed resource is named. -/
def Resource.name : Resource → String
  | pool => "slab pool"
  | memory => "sensitive memory"

/-- Why an argument to a memory operation is refused. -/
inductive Misuse where
  /-- A buffer of no bytes was requested. -/
  | zeroSize
  /-- A slab with no segments or segments of no bytes. -/
  | emptySlab (segmentSize count : Nat)
  /-- A slab whose byte length does not fit a 64-bit word. -/
  | slabOverflow (count segmentSize : Nat)
  /-- Copying an empty value into sensitive memory. -/
  | emptyCopy
  /-- Handing an empty buffer to sensitive memory. -/
  | emptyOwner
  /-- A tag whose buffer kind is not the kind of buffer being made. -/
  | kindMismatch (declared requested : BufferKind)
  deriving DecidableEq, Repr

/-- The text of a misuse. -/
def Misuse.describe : Misuse → String
  | zeroSize => "buffer size must be greater than zero"
  | emptySlab size count =>
    "slab dimensions must be non-zero (segment size " ++ toString size ++ ", count " ++
      toString count ++ ")"
  | slabOverflow count size =>
    "slab of " ++ toString count ++ " x " ++ toString size ++ " bytes overflows the address space"
  | emptyCopy => "cannot copy an empty value; use SensitiveMemory::empty"
  | emptyOwner => "sensitive memory needs a non-empty buffer; use SensitiveMemory::empty"
  | kindMismatch declared requested =>
    "tag declares " ++ declared.name ++ " but a " ++ requested.name ++ " buffer was requested"

/-- An error of pools, allocators and sensitive buffers. -/
inductive MemoryError where
  | invalid (m : Misuse)
  | disposed (r : Resource)
  | doubleRelease (slab segment : Nat)
  | corruption (detail : String)
  | config (e : ConfigError)

/-- The message of a memory error. -/
def MemoryError.message : MemoryError → String
  | invalid m => "invalid argument: " ++ m.describe
  | disposed r => "use after dispose: " ++ r.name
  | doubleRelease slab segment =>
    "double release of segment " ++ toString segment ++ " in slab " ++ toString slab
  | corruption d => "allocator corruption: " ++ d
  | config e => "invalid pool configuration: " ++ e.describe

/-- An error of key handling. -/
inductive KeyError where
  | memory (e : MemoryError)
  | missingAlgorithm (t : Tag)
  | missingPurpose (t : Tag)
  | algorithmMismatch (signature key : Algorithm)
  | wrongLength (what : String) (expected actual : Nat)
  | invalidArgument (detail : String)
  | notInitialized
  | alreadyInitialized
  | notFound (key : FunctionKey)
  | signing (detail : String)
  | verification (detail : String)
  | unknownKey (id : String)
  | emptyKeyId (reference : String)

/-- The message of a key error. -/
def KeyError.message : KeyError → String
  | memory e => e.message
  | missingAlgorithm t => "invalid argument: tag " ++ t.describe ++ " has no algorithm"
  | missingPurpose t => "invalid argument: tag " ++ t.describe ++ " has no purpose"
  | algorithmMismatch s k =>
    "invalid argument: " ++ s.label ++ " signature presented to a " ++ k.label ++ " key"
  | wrongLength what expected actual =>
    "invalid argument: " ++ what ++ " must be " ++ toString expected ++ " bytes, got " ++
      toString actual
  | invalidArgument d => "invalid argument: " ++ d
  | notInitialized => "function registry is not initialized"
  | alreadyInitialized => "function registry is already initialized"
  | notFound k =>
    "no function registered for " ++ k.algorithm.label ++ "/" ++ k.purpose.label ++
      match k.qualifier with
      | some q => " (" ++ q.text ++ ")"
      | none => ""
  | signing d => "signing failed: " ++ d
  | verification d => "verification failed: " ++ d
  | unknownKey id => "key load failed: no key stored under " ++ Text.quote id
  | emptyKeyId r => "key identification failed: reference " ++ Text.quote r ++ " has an empty key id"

/-- Memory errors are key errors, unchanged. -/
instance : Coe MemoryError KeyError := ⟨KeyError.memory⟩

end KeyCustody
