/-!
# Blanks

Blank characters are those with the property `White_Space`.  Trimming removes
those at both ends of a text, and leaves nothing of a text that has no others.
-/

namespace SchemaGate

def isBlank (c : Char) : Bool :=
  let n := c.toNat
  (0x9 ≤ n && n ≤ 0xD) || n = 0x20 || n = 0x85 || n = 0xA0 || n = 0x1680 ||
    (0x2000 ≤ n && n ≤ 0x200A) || n = 0x2028 || n = 0x2029 || n = 0x202F || n = 0x205F || n = 0x3000

/-- The characters without the blanks at both ends. -/
def trimChars (cs : List Char) : List Char :=
  ((cs.dropWhile isBlank).reverse.dropWhile isBlank).reverse

def trim (text : String) : String :=
  String.ofList (trimChars text.toList)

def Blank (text : String) : Bool :=
  text.toList.all isBlank

theorem trimChars_of_blank {cs : List Char} (h : cs.all isBlank = true) : trimChars cs = [] := by
  have hd : cs.dropWhile isBlank = [] := by
    induction cs with
    | nil => rfl
    | cons c cs ih =>
      simp only [List.all_cons, Bool.and_eq_true] at h
      simp [List.dropWhile, h.1, ih h.2]
  simp [trimChars, hd]

end SchemaGate
