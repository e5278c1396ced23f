/-!
# Run identifiers

Every run of the program has a random number of 128 bits, of which six say that it is random.  It
is written in lower-case hexadecimal.
-/

set_option autoImplicit false

namespace Crosswalk

/-- The identifier of one run of the program. -/
structure RunId where
  bits : BitVec 128
  deriving DecidableEq, Repr

namespace RunId

/-- Set the bits that mark a random identifier: the version four, and the variant that begins with
a one and a zero. -/
def mark (bits : BitVec 128) : BitVec 128 :=
  let version : BitVec 128 := 0xF000#128 <<< 64
  let variant : BitVec 128 := 0xC000000000000000#128
  (bits &&& ~~~(version ||| variant)) ||| (0x4000#128 <<< 64) ||| 0x8000000000000000#128

/-- The identifier of random bytes. -/
def ofBytes (bytes : List UInt8) : RunId :=
  ⟨mark (BitVec.ofNat 128 (bytes.foldl (fun n byte => n * 256 + byte.toNat) 0))⟩

def text (run : RunId) : String :=
  let digits := Nat.toDigits 16 run.bits.toNat
  "run_" ++ String.ofList (List.replicate (32 - digits.length) '0' ++ digits)

/-- The text has the form of a run identifier. -/
def isRunId (s : String) : Bool :=
  match s.toList with
  | 'r' :: 'u' :: 'n' :: '_' :: digits =>
    digits.all fun c => c.isDigit || ('a' ≤ c && c ≤ 'f')
  | _ => false

end RunId

end Crosswalk
