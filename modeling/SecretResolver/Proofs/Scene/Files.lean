import SecretResolver.Proofs.Text.Encoding
import SecretResolver.Scene.FileTree

set_option autoImplicit false

namespace SecretResolver.FileTree

section

variable {t : FileTree} {place : List String} {node : Node}

theorem node?_putAt_of_ne {other : List String} (differs : other ≠ place) :
    (t.putAt place node).node? other = t.node? other := by
  have kept (entry : List String × Node) : (entry.1 != place && entry.1 == other) =
      (entry.1 == other) := by
    by_cases same : entry.1 = other <;> simp [same, differs]
  have found : (t.nodes.filter (·.1 != place)).find? (·.1 == other) =
      t.nodes.find? (·.1 == other) := by
    simp only [List.find?_filter, Bool.decide_and, Bool.decide_eq_true, kept]
  simp only [node?, putAt, removeAt, List.find?_cons_of_neg, beq_iff_eq, Ne.symm differs,
    not_false_eq_true, found]

theorem node?_putAt (free : t.node? place ≠ some .directory) :
    (t.putAt place node).node? place = some node := by
  have outside : ¬ place.isPrefixOf t.working := by
    intro inside
    exact free (if_pos inside)
  rw [node?]
  exact (if_neg outside).trans (by simp [putAt])

theorem walk_putAt (free : t.node? place ≠ some .directory) {names directory reached : List String}
    (walked : t.walk directory names = .ok reached) :
    (t.putAt place node).walk directory names = .ok reached := by
  induction names generalizing directory with
  | nil => exact walked
  | cons name names ih =>
    unfold walk at walked ⊢
    split at walked
    · next here => rw [if_pos here, ih walked]
    · next notHere =>
      rw [if_neg notHere]
      split at walked
      · next up => rw [if_pos up, ih walked]
      · next notUp =>
        rw [if_neg notUp]
        split at walked
        · cases walked
        · next short =>
          rw [if_neg short]
          split at walked
          · cases walked
          · cases walked
          · next isDirectory =>
            have differs : directory ++ [name] ≠ place := by
              rintro rfl
              exact free isDirectory
            rw [node?_putAt_of_ne differs, isDirectory]
            exact ih walked

theorem place_putAt (free : t.node? place ≠ some .directory) {path : String} {reached : List String}
    (placed : t.place path = .ok reached) : (t.putAt place node).place path = .ok reached := by
  have start_eq : (t.putAt place node).start path = t.start path := rfl
  unfold FileTree.place at placed ⊢
  split at placed
  · cases placed
  · next noNul =>
    rw [if_neg noNul]
    split at placed
    · cases placed
    · next nonempty =>
      rw [if_neg nonempty]
      split at placed
      · cases placed
      · next short =>
        rw [if_neg short, start_eq]
        dsimp only at placed ⊢
        cases walked : t.walk (t.start path) (components path).dropLast with
        | error fault =>
          rw [walked] at placed
          cases placed
        | ok directory =>
          rw [walked] at placed
          rw [walk_putAt free walked]
          exact placed

theorem read_put {path : String} {content : ByteArray} (placed : t.place path = .ok place)
    (free : t.node? place ≠ some .directory) :
    (t.put path (.file content)).read path = .ok content := by
  have put_eq : t.put path (.file content) = t.putAt place (.file content) := by
    rw [put, placed]
  rw [put_eq, read, place_putAt free placed]
  simp only [bind, Except.bind, node?_putAt free]

end

-- what it comes to when a file is read as a text
inductive Reads (t : FileTree) (path : String) : Except FileFault String → Prop where
  | unreadable {fault : FileFault} (read : t.read path = .error fault) : Reads t path (.error fault)
  | notText {bytes : ByteArray} (read : t.read path = .ok bytes)
      (invalid : ∀ text : String, text.toUTF8 ≠ bytes) : Reads t path (.error .notText)
  | text {text : String} (read : t.read path = .ok text.toUTF8) : Reads t path (.ok text)

def text (t : FileTree) (path : String) : Except FileFault String :=
  t.read path >>= Host.textOf

theorem reads_text (t : FileTree) (path : String) : t.Reads path (t.text path) := by
  unfold text
  cases read : t.read path with
  | error fault => exact .unreadable read
  | ok bytes =>
    cases decoded : String.fromUTF8? bytes with
    | none =>
      have textOf_eq : (Except.ok bytes >>= Host.textOf) = .error .notText := by
        simp only [bind, Except.bind, Host.textOf, decoded]
      rw [textOf_eq]
      refine .notText read ?_
      rintro text rfl
      rw [fromUTF8?_toUTF8] at decoded
      cases decoded
    | some text =>
      obtain rfl := toUTF8_of_fromUTF8? decoded
      have textOf_eq : (Except.ok text.toUTF8 >>= Host.textOf) = .ok text := by
        simp only [bind, Except.bind, Host.textOf, decoded]
      rw [textOf_eq]
      exact .text read

theorem Reads.unique {t : FileTree} {path : String} {result result' : Except FileFault String}
    (reads : t.Reads path result) (reads' : t.Reads path result') : result = result' := by
  cases reads with
  | unreadable read =>
    cases reads' with
    | unreadable read' => cases read.symm.trans read'; rfl
    | notText read' _ => cases read.symm.trans read'
    | text read' => cases read.symm.trans read'
  | notText read invalid =>
    cases reads' with
    | unreadable read' => cases read.symm.trans read'
    | notText read' _ => rfl
    | text read' =>
      cases read.symm.trans read'
      exact absurd rfl (invalid _)
  | @text text read =>
    cases reads' with
    | unreadable read' => cases read.symm.trans read'
    | notText read' invalid =>
      cases read.symm.trans read'
      exact absurd rfl (invalid _)
    | @text text' read' =>
      have same : text.toUTF8 = text'.toUTF8 := Except.ok.inj (read.symm.trans read')
      exact congrArg Except.ok (String.toByteArray_inj.1 same)

theorem reads_iff {t : FileTree} {path : String} {result : Except FileFault String} :
    t.Reads path result ↔ t.text path = result :=
  ⟨fun reads => (t.reads_text path).unique reads, fun same => same ▸ t.reads_text path⟩

end SecretResolver.FileTree
