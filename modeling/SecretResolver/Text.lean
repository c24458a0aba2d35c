set_option autoImplicit false

namespace SecretResolver.Text

-- the property White_Space of Unicode
def isBlank (c : Char) : Bool :=
  let n := c.toNat
  (0x09 ≤ n && n ≤ 0x0D) || n == 0x20 || n == 0x85 || n == 0xA0 || n == 0x1680 ||
    (0x2000 ≤ n && n ≤ 0x200A) || n == 0x2028 || n == 0x2029 || n == 0x202F || n == 0x205F ||
    n == 0x3000

def dropEndWhile (p : Char → Bool) (cs : List Char) : List Char :=
  (cs.reverse.dropWhile p).reverse

-- both ends, and nothing in between
def trim (cs : List Char) : List Char :=
  dropEndWhile isBlank (cs.dropWhile isBlank)

theorem exists_blanks_around_trim (cs : List Char) :
    ∃ before after, (∀ c ∈ before, isBlank c) ∧ (∀ c ∈ after, isBlank c) ∧
      cs = before ++ trim cs ++ after := by
  let rest := cs.dropWhile isBlank
  refine ⟨cs.takeWhile isBlank, (rest.reverse.takeWhile isBlank).reverse, ?_, ?_, ?_⟩
  · exact List.all_eq_true.1 List.all_takeWhile
  · intro c member
    exact List.all_eq_true.1 List.all_takeWhile c (List.mem_reverse.1 member)
  · have ends : trim cs ++ (rest.reverse.takeWhile isBlank).reverse = rest := by
      rw [trim, dropEndWhile, ← List.reverse_append, List.takeWhile_append_dropWhile,
        List.reverse_reverse]
    rw [List.append_assoc, ends, List.takeWhile_append_dropWhile]

theorem dropWhile_eq_self {p : Char → Bool} {cs : List Char}
    (head : ∀ c ∈ cs.head?, p c = false) : cs.dropWhile p = cs := by
  cases cs with
  | nil => rfl
  | cons c cs => rw [List.dropWhile_cons_of_neg (by simp [head c rfl])]

theorem trim_append {before middle after : List Char} (beforeBlank : ∀ c ∈ before, isBlank c)
    (afterBlank : ∀ c ∈ after, isBlank c) (head : ∀ c ∈ middle.head?, isBlank c = false)
    (last : ∀ c ∈ middle.getLast?, isBlank c = false) (nonempty : middle ≠ []) :
    trim (before ++ middle ++ after) = middle := by
  have start : (middle ++ after).dropWhile isBlank = middle ++ after := by
    apply dropWhile_eq_self
    rwa [List.head?_append, List.head?_eq_some_head nonempty, Option.some_or,
      ← List.head?_eq_some_head nonempty]
  have stop : middle.reverse.dropWhile isBlank = middle.reverse := by
    apply dropWhile_eq_self
    rwa [List.head?_reverse]
  have blanks : ∀ c ∈ after.reverse, isBlank c := fun c member =>
    afterBlank c (List.mem_reverse.1 member)
  rw [trim, List.append_assoc, List.dropWhile_append_of_pos beforeBlank, start, dropEndWhile,
    List.reverse_append, List.dropWhile_append_of_pos blanks, stop, List.reverse_reverse]

def trimmed (s : String) : String :=
  String.ofList (trim s.toList)

end SecretResolver.Text
