/-
  FilterRules — characters and texts.

  * `byteCount` is the number of bytes of the UTF-8 form of some characters;
  * `inRanges` tells whether a character lies in one of some ranges of code points,
    both ends included;
  * `isWhiteSpace` tells whether a character has the property White_Space, and
    `isBlank` whether a text holds no other character.
-/

namespace FilterRules.Text

/-! ## Bytes -/

/-- The number of bytes of the UTF-8 form of a text. -/
def byteCount (cs : List Char) : Nat := cs.foldr (fun c n => c.utf8Size + n) 0

@[simp] theorem byteCount_cons (c : Char) (cs : List Char) :
    byteCount (c :: cs) = c.utf8Size + byteCount cs := by
  rfl

/-! ## Classes of characters -/

/-- Whether the code point of a character lies in one of the ranges. -/
def inRanges (ranges : List (Nat × Nat)) (c : Char) : Bool :=
  ranges.any fun range => decide (range.1 ≤ c.toNat) && decide (c.toNat ≤ range.2)

/-- The characters with the property White_Space. -/
def whiteSpaceRanges : List (Nat × Nat) :=
  [(0x9, 0xd), (0x20, 0x20), (0x85, 0x85), (0xa0, 0xa0), (0x1680, 0x1680), (0x2000, 0x200a),
   (0x2028, 0x2029), (0x202f, 0x202f), (0x205f, 0x205f), (0x3000, 0x3000)]

/-- Whether a character is white space. -/
def isWhiteSpace (c : Char) : Bool := inRanges whiteSpaceRanges c

/-- Whether a text holds nothing but white space. -/
def isBlank (text : String) : Bool := text.toList.all isWhiteSpace

end FilterRules.Text
