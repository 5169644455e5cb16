/-!
Character classes of the text formats, and trimming. Blanks are the Unicode white space;
the patterns of the file formats know the ASCII classes only.
-/
namespace NetNames.Text

/-- Whether a code point lies in one of the runs, each given by its first and last one. -/
def isWithin (runs : List (Nat × Nat)) (n : Nat) : Bool :=
  runs.any fun r => r.1 ≤ n && n ≤ r.2

/-- The Unicode property White_Space. -/
def isBlank (c : Char) : Bool :=
  let n := c.toNat
  (0x09 ≤ n && n ≤ 0x0d) || n == 0x20 || n == 0x85 || n == 0xa0 || n == 0x1680 ||
  (0x2000 ≤ n && n ≤ 0x200a) || n == 0x2028 || n == 0x2029 || n == 0x202f || n == 0x205f ||
  n == 0x3000

/-- Space, tab, line feed, vertical tab, form feed, carriage return. -/
def isSpace (c : Char) : Bool := c == ' ' || (0x09 ≤ c.toNat && c.toNat ≤ 0x0d)

def isDigit (c : Char) : Bool := '0' ≤ c && c ≤ '9'
def isLetter (c : Char) : Bool := ('a' ≤ c && c ≤ 'z') || ('A' ≤ c && c ≤ 'Z')

/-- ASCII letters, digits and the underscore. -/
def isWord (c : Char) : Bool := isLetter c || isDigit c || c == '_'

/-- The characters of an alias, a service or a host. -/
def isName (c : Char) : Bool := isWord c || c == '.'

theorem isBlank_of_isSpace {c : Char} (h : isSpace c = true) : isBlank c = true := by
  simp only [isSpace, isBlank, Bool.or_eq_true, Bool.and_eq_true, beq_iff_eq, decide_eq_true_eq]
    at h ⊢
  rcases h with rfl | h
  · decide
  · simp [h]

def skipSpaces (s : List Char) : List Char := s.dropWhile isSpace

def trimStart (s : List Char) : List Char := s.dropWhile isBlank

/-- Drops the characters at the end that pass the test. -/
def dropEnd (p : Char → Bool) (s : List Char) : List Char := (s.reverse.dropWhile p).reverse

def trimEnd (s : List Char) : List Char := dropEnd isBlank s
def trim (s : List Char) : List Char := trimEnd (trimStart s)

theorem skipSpaces_length_le (s : List Char) : (skipSpaces s).length ≤ s.length :=
  (List.dropWhile_suffix _).length_le

/-- ASCII letters to lower case, all else as it is. -/
def lower (s : List Char) : List Char := s.map Char.toLower

def sameIgnoringCase (a b : String) : Bool := lower a.toList == lower b.toList

/-- What follows `word` at the start of the text, letters compared without regard to case. -/
def afterWord : (word : List Char) → (s : List Char) → Option (List Char)
  | [], s => some s
  | _ :: _, [] => none
  | w :: ws, c :: s => if w.toLower = c.toLower then afterWord ws s else none

theorem length_of_afterWord {word s r : List Char} (h : afterWord word s = some r) :
    s.length = word.length + r.length := by
  induction word generalizing s with
  | nil => simp_all [afterWord]
  | cons w ws ih =>
    cases s with
    | nil => simp [afterWord] at h
    | cons c s =>
      rw [afterWord] at h
      split at h
      · simp only [List.length_cons, ih h]
        omega
      · simp at h

/-- What follows `c`, with ASCII spaces allowed before and after it. -/
def afterSpaced (c : Char) (s : List Char) : Option (List Char) :=
  match skipSpaces s with
  | [] => none
  | d :: r => if d = c then some (skipSpaces r) else none

theorem length_of_afterSpaced {c : Char} {s r : List Char} (h : afterSpaced c s = some r) :
    r.length < s.length := by
  have hs := skipSpaces_length_le s
  rw [afterSpaced] at h
  split at h
  · simp at h
  · rename_i d t he
    split at h
    · have ht := skipSpaces_length_le t
      rw [he] at hs
      simp only [List.length_cons] at hs
      cases h
      omega
    · simp at h

end NetNames.Text

namespace NetNames

def trimmed (s : String) : String := String.ofList (Text.trim s.toList)

end NetNames
