/-!
# UTF-8

Texts as bytes and bytes as texts. Reading is a machine that takes one byte at a time (`Decoder.step`): a run of
bytes that begins a character but cannot be continued, or a byte that begins none, is reported as one undecodable
run. Reading strictly (`decode?`) wants none of them; reading leniently (`decodeLossy`) puts U+FFFD in place of each.
-/

namespace ScenarioStubs

/-- A sequence of bytes, such as a message body. -/
abbrev Bytes := List UInt8

namespace Utf8

/-- A character begun but not complete: the bits read so far, the number of bytes still owed, and the least and
greatest byte that may come next. -/
structure Partial where
  bits : Nat
  owed : Nat
  least : UInt8
  greatest : UInt8

/-- Between characters, or inside one. -/
abbrev State := Option Partial

/-- A character, or `none` for an undecodable run of bytes. -/
abbrev Symbol := Option Char

/-- What a byte means between characters: a whole character, the start of one, or nothing. -/
def first (b : UInt8) : List Symbol × State :=
  if b < 0x80 then ([some (Char.ofNat b.toNat)], none)
  else if 0xC2 ≤ b ∧ b ≤ 0xDF then ([], some ⟨b.toNat % 0x20, 1, 0x80, 0xBF⟩)
  else if b = 0xE0 then ([], some ⟨0, 2, 0xA0, 0xBF⟩)
  else if b = 0xED then ([], some ⟨0xD, 2, 0x80, 0x9F⟩)
  else if 0xE1 ≤ b ∧ b ≤ 0xEF then ([], some ⟨b.toNat % 0x10, 2, 0x80, 0xBF⟩)
  else if b = 0xF0 then ([], some ⟨0, 3, 0x90, 0xBF⟩)
  else if 0xF1 ≤ b ∧ b ≤ 0xF3 then ([], some ⟨b.toNat % 0x08, 3, 0x80, 0xBF⟩)
  else if b = 0xF4 then ([], some ⟨4, 3, 0x80, 0x8F⟩)
  else ([none], none)

/-- One byte: the symbols it completes, and the state after it. A byte that cannot continue the character begun ends
an undecodable run and is read again between characters. -/
def step : State → UInt8 → List Symbol × State
  | none, b => first b
  | some p, b =>
    if p.least ≤ b ∧ b ≤ p.greatest then
      let bits := p.bits * 0x40 + b.toNat % 0x40
      if p.owed ≤ 1 then ([some (Char.ofNat bits)], none) else ([], some ⟨bits, p.owed - 1, 0x80, 0xBF⟩)
    else
      let (symbols, state) := first b
      (none :: symbols, state)

/-- The symbols of a byte sequence read from a given state. -/
def symbolsFrom : State → Bytes → List Symbol
  | none, [] => []
  | some _, [] => [none]
  | state, b :: bs => let (symbols, state) := step state b; symbols ++ symbolsFrom state bs

/-- The symbols of a byte sequence. -/
def symbols (bytes : Bytes) : List Symbol := symbolsFrom none bytes

/-- The text that a byte sequence encodes, if it is UTF-8 throughout. -/
def decode? (bytes : Bytes) : Option String := ((symbols bytes).mapM id).map String.ofList

/-- The text of a byte sequence with U+FFFD for each undecodable run. -/
def decodeLossy (bytes : Bytes) : String := String.ofList ((symbols bytes).map (·.getD '\uFFFD'))

/-- The bytes of a list of characters. -/
def encodeList (cs : List Char) : Bytes := cs.flatMap String.utf8EncodeChar

/-- The bytes of a text. -/
def encode (s : String) : Bytes := encodeList s.toList

end Utf8

end ScenarioStubs
