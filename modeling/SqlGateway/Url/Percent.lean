import SqlGateway.Text.Utf8

/-!
# Percent-encoding

A URL spells a character that may not stand as it is by the bytes of its UTF-8, each as
a percent sign and two hexadecimal digits.  Which characters those are depends on the
part of the URL.  Every set here holds the controls and whatever is not ASCII, so an
encoded part is printable ASCII.

A percent sign is in none of the sets.  Encoding therefore leaves alone what is encoded
already, and encoding twice is encoding once.
-/

namespace SqlGateway.Url

/-! ## Sets of characters -/

/-- A set of characters that are encoded. -/
abbrev EncodeSet := Char → Bool

namespace EncodeSet

/-- A set and some more characters. -/
def adding (set : EncodeSet) (more : List Char) : EncodeSet := fun c => set c || more.contains c

/-- Controls, and characters that are not ASCII. -/
def controls : EncodeSet := fun c => c < ' ' || '\x7e' < c

/-- The characters encoded in a fragment. -/
def fragment : EncodeSet := controls.adding [' ', '"', '<', '>', '`']

/-- The characters encoded in a query. -/
def query : EncodeSet := controls.adding [' ', '"', '#', '<', '>']

/-- The characters encoded in the query of a special URL. -/
def specialQuery : EncodeSet := query.adding ['\'']

/-- The characters encoded in a segment of a path. -/
def path : EncodeSet := fragment.adding ['#', '?', '{', '}']

/-- The characters encoded in a user name and a password. -/
def userinfo : EncodeSet := path.adding ['/', ':', ';', '=', '@', '[', '\\', ']', '^', '|']

end EncodeSet

/-! ## Encoding -/

/-- A hexadecimal digit, in upper case. -/
def upperHex (n : Nat) : Char := if n < 10 then Char.ofNat (48 + n) else Char.ofNat (55 + n)

/-- A byte as a percent sign and two digits. -/
def encodeByte (b : UInt8) : List Char := ['%', upperHex (b.toNat / 16), upperHex (b.toNat % 16)]

/-- A character as it stands in a part of a URL. -/
def encodeChar (set : EncodeSet) (c : Char) : List Char :=
  if set c then (String.utf8EncodeChar c).flatMap encodeByte else [c]

/-- A text as it stands in a part of a URL. -/
def encode (set : EncodeSet) (cs : List Char) : List Char := cs.flatMap (encodeChar set)

@[simp] theorem encode_nil (set : EncodeSet) : encode set [] = [] := rfl

@[simp] theorem encode_cons (set : EncodeSet) (c : Char) (cs : List Char) :
    encode set (c :: cs) = encodeChar set c ++ encode set cs := rfl

@[simp] theorem encode_append (set : EncodeSet) (cs ds : List Char) :
    encode set (cs ++ ds) = encode set cs ++ encode set ds := by
  simp [encode]

/-- A text none of whose characters is in the set stays as it is. -/
theorem encode_of_free {set : EncodeSet} {cs : List Char} (h : ∀ c ∈ cs, set c = false) :
    encode set cs = cs := by
  induction cs with
  | nil => rfl
  | cons c cs ih =>
      rw [encode_cons, encodeChar, h c (by simp), ih fun d hd => h d (by simp [hd])]
      rfl

/-! ## Decoding -/

/-- The value of a hexadecimal digit. -/
def hexValue? (b : UInt8) : Option UInt8 :=
  if 48 ≤ b ∧ b ≤ 57 then some (b - 48)
  else if 65 ≤ b ∧ b ≤ 70 then some (b - 55)
  else if 97 ≤ b ∧ b ≤ 102 then some (b - 87)
  else none

/-- Replace every percent sign that two hexadecimal digits follow, and those digits, by the
byte they spell. -/
def decodeBytes : Bytes → Bytes
  | 37 :: a :: b :: rest =>
      match hexValue? a, hexValue? b with
      | some h, some l => (h * 16 + l) :: decodeBytes rest
      | _, _ => 37 :: decodeBytes (a :: b :: rest)
  | b :: rest => b :: decodeBytes rest
  | [] => []

/-- The bytes a part of a URL spells. -/
def decode (cs : List Char) : Bytes := decodeBytes (Utf8.encode (.ofList cs))

end SqlGateway.Url
