import InfraLint.Text.Range

/-!
White space, and what it separates. The set is that of Unicode, so that a no-break space
or a line separator counts as well as a space.
-/
namespace InfraLint.Text

def isBlank (c : Char) : Bool :=
  c.inRanges [⟨0x09, 0x0D⟩, ⟨0x20, 0x20⟩, ⟨0x85, 0x85⟩, ⟨0xA0, 0xA0⟩, ⟨0x1680, 0x1680⟩,
    ⟨0x2000, 0x200A⟩, ⟨0x2028, 0x2029⟩, ⟨0x202F, 0x202F⟩, ⟨0x205F, 0x205F⟩, ⟨0x3000, 0x3000⟩]

def skipBlank (s : List Char) : List Char := s.dropWhile isBlank

def blank? : List Char → Option (List Char)
  | [] => none
  | c :: s => if isBlank c then some (skipBlank s) else none

def trim (s : List Char) : List Char :=
  (skipBlank (skipBlank s).reverse).reverse

end InfraLint.Text
