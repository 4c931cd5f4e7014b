/-!
# Bytes as text

Files hold bytes; their text is read as UTF-8. Where the bytes are no such text, the first offending
bytes are reported with the reason. `decode` reads the longest possible characters and allows
neither overlong forms nor surrogates.
-/

namespace SqlPipeline

namespace Text

/-- Why bytes are no text. -/
inductive DecodeReason where
  | invalidStart
  | invalidContinuation
  | unexpectedEnd
  deriving DecidableEq, Repr

/-- The first bytes that are no text: their place, how many they are, the first of them, and why. -/
structure DecodeError where
  position : Nat
  count : Nat
  byte : UInt8
  reason : DecodeReason
  deriving DecidableEq, Repr

/-- The wording of a reason. -/
def DecodeReason.message : DecodeReason → String
  | .invalidStart => "invalid start byte"
  | .invalidContinuation => "invalid continuation byte"
  | .unexpectedEnd => "unexpected end of data"

/-- A byte as two digits in base sixteen. -/
def byteDigits (byte : UInt8) : String :=
  let digits := Nat.toDigits 16 byte.toNat
  String.ofList (List.replicate (2 - digits.length) '0' ++ digits)

/-- The wording of a decoding error. -/
def DecodeError.message (error : DecodeError) : String :=
  let place :=
    if error.count = 1 then "byte 0x" ++ byteDigits error.byte ++ " in position " ++
      toString error.position
    else "bytes in position " ++ toString error.position ++ "-" ++
      toString (error.position + error.count - 1)
  "'utf-8' codec can't decode " ++ place ++ ": " ++ error.reason.message

/-- How a character begins: how many further bytes it has, the bounds of the next byte, and the bits
in the first byte. -/
def leadByte? (byte : UInt8) : Option (Nat × UInt8 × UInt8 × Nat) :=
  if 0xC2 ≤ byte && byte ≤ 0xDF then some (1, 0x80, 0xBF, byte.toNat - 0xC0)
  else if byte == 0xE0 then some (2, 0xA0, 0xBF, 0)
  else if byte == 0xED then some (2, 0x80, 0x9F, 0xD)
  else if 0xE1 ≤ byte && byte ≤ 0xEF then some (2, 0x80, 0xBF, byte.toNat - 0xE0)
  else if byte == 0xF0 then some (3, 0x90, 0xBF, 0)
  else if byte == 0xF4 then some (3, 0x80, 0x8F, 4)
  else if 0xF1 ≤ byte && byte ≤ 0xF3 then some (3, 0x80, 0xBF, byte.toNat - 0xF0)
  else none

/-- The code point that further bytes complete and what follows them, or how many bytes were used up
when they do not and why. -/
def continueWith (code used : Nat) : Nat → UInt8 → UInt8 → List UInt8 →
    Except (Nat × DecodeReason) (Nat × List UInt8)
  | 0, _, _, rest => .ok (code, rest)
  | _ + 1, _, _, [] => .error (used, .unexpectedEnd)
  | count + 1, low, high, byte :: rest =>
    if low ≤ byte && byte ≤ high then
      continueWith (code * 64 + (byte.toNat - 0x80)) (used + 1) count 0x80 0xBF rest
    else .error (used, .invalidContinuation)

theorem length_le_of_continueWith {code used count point : Nat} {low high : UInt8}
    {rest after : List UInt8}
    (found : continueWith code used count low high rest = .ok (point, after)) :
    after.length ≤ rest.length := by
  induction count generalizing code used low high rest with
  | zero =>
    obtain ⟨-, rfl⟩ := Prod.mk.inj (Except.ok.inj found)
    exact Nat.le_refl _
  | succ count ih =>
    cases rest with
    | nil => cases found
    | cons byte others =>
      simp only [continueWith] at found
      split at found
      · exact Nat.le_succ_of_le (ih found)
      · cases found

/-- The first character of some bytes and what follows it, or how many bytes are no text and why. -/
def firstChar (byte : UInt8) (rest : List UInt8) :
    Except (Nat × DecodeReason) (Char × List UInt8) :=
  if byte < 0x80 then .ok (Char.ofNat byte.toNat, rest)
  else
    match leadByte? byte with
    | none => .error (1, .invalidStart)
    | some (count, low, high, bits) =>
      (continueWith bits 1 count low high rest).map fun (code, after) => (Char.ofNat code, after)

theorem length_le_of_firstChar {byte : UInt8} {rest after : List UInt8} {c : Char}
    (found : firstChar byte rest = .ok (c, after)) : after.length ≤ rest.length := by
  simp only [firstChar] at found
  split at found
  · obtain ⟨-, rfl⟩ := Prod.mk.inj (Except.ok.inj found)
    exact Nat.le_refl _
  · split at found
    · cases found
    · next count low high bits _ =>
      cases continued : continueWith bits 1 count low high rest with
      | error fault => simp [continued, Except.map] at found
      | ok pair =>
        simp only [continued, Except.map, Except.ok.injEq, Prod.mk.injEq] at found
        obtain ⟨-, rfl⟩ := found
        exact length_le_of_continueWith continued

/-- The text of bytes; `position` counts the bytes before them. -/
def decodeFrom (position : Nat) (bytes : List UInt8) : Except DecodeError (List Char) :=
  match bytes with
  | [] => .ok []
  | byte :: rest =>
    match _found : firstChar byte rest with
    | .error (count, reason) => .error ⟨position, count, byte, reason⟩
    | .ok (c, after) =>
      (decodeFrom (position + (rest.length - after.length) + 1) after).map (c :: ·)
termination_by bytes.length
decreasing_by exact Nat.lt_succ_of_le (length_le_of_firstChar _found)

/-- The text of bytes. -/
def decode (bytes : List UInt8) : Except DecodeError String :=
  (decodeFrom 0 bytes).map String.ofList

theorem firstChar_of_ascii {c : Char} (ascii : c.toNat < 128) (rest : List UInt8) :
    firstChar (UInt8.ofNat c.toNat) rest = .ok (c, rest) := by
  have same : (UInt8.ofNat c.toNat).toNat = c.toNat := by
    rw [UInt8.toNat_ofNat']
    omega
  have below : UInt8.ofNat c.toNat < 0x80 := by
    rw [UInt8.lt_iff_toNat_lt, same]
    exact ascii
  rw [firstChar, if_pos below, same, Char.ofNat_toNat]

theorem decodeFrom_of_ascii {text : List Char} (ascii : ∀ c ∈ text, c.toNat < 128)
    (position : Nat) :
    decodeFrom position (text.map fun c => UInt8.ofNat c.toNat) = .ok text := by
  induction text generalizing position with
  | nil => rw [List.map_nil, decodeFrom]
  | cons c rest ih =>
    rw [List.map_cons, decodeFrom]
    split
    · next found =>
      rw [firstChar_of_ascii (ascii c List.mem_cons_self)] at found
      cases found
    · next found =>
      rw [firstChar_of_ascii (ascii c List.mem_cons_self)] at found
      cases found
      rw [ih fun other member => ascii other (List.mem_cons_of_mem _ member)]
      rfl

/-- Characters in ASCII are the bytes that they are encoded by. -/
theorem decode_of_ascii {text : String} (ascii : (text.toList.all fun c => c.toNat < 128) = true) :
    decode (text.toList.map fun c => UInt8.ofNat c.toNat) = .ok text := by
  have each : ∀ c ∈ text.toList, c.toNat < 128 := fun c member =>
    of_decide_eq_true (List.all_eq_true.mp ascii c member)
  rw [decode, decodeFrom_of_ascii each]
  exact congrArg Except.ok String.ofList_toList

end Text

end SqlPipeline
