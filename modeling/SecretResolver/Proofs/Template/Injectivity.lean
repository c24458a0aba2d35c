import Mathlib.Logic.Function.Basic
import SecretResolver.Proofs.Template.Compile

set_option autoImplicit false

namespace SecretResolver.Template

variable {pieces : List Piece} {a b : List Char}

theorem length_fill (id : List Char) (pieces : List Piece) :
    (fill id pieces).length = (fill [] pieces).length + pieces.count .id * id.length := by
  induction pieces with
  | nil => simp [fill]
  | cons piece pieces ih =>
    have step (id : List Char) :
        (fill id (piece :: pieces)).length = (piece.fill id).length + (fill id pieces).length := by
      simp [fill]
    rw [step, step, ih]
    cases piece with
    | literal text => simp [Piece.fill, Nat.add_assoc]
    | id =>
      simp only [Piece.fill, List.count_cons_self, List.length_nil, Nat.succ_mul]
      omega

theorem length_eq_of_fill_eq (mem : .id ∈ pieces) (same : fill a pieces = fill b pieces) :
    a.length = b.length := by
  have lengths := congrArg List.length same
  rw [length_fill a, length_fill b] at lengths
  exact Nat.eq_of_mul_eq_mul_left (List.count_pos_iff.2 mem) (Nat.add_left_cancel lengths)

theorem length_fill_eq (pieces : List Piece) (length_eq : a.length = b.length) :
    (fill a pieces).length = (fill b pieces).length := by
  rw [length_fill a, length_fill b, length_eq]

theorem fill_injective (mem : .id ∈ pieces) : Function.Injective fun id => fill id pieces := by
  intro a b same
  have length_eq := length_eq_of_fill_eq mem same
  obtain ⟨before, after, rfl⟩ := List.append_of_mem mem
  have split (id : List Char) :
      fill id (before ++ .id :: after) = fill id before ++ (id ++ fill id after) := by
    rw [fill_append]
    rfl
  simp only [split] at same
  have from_id := (List.append_inj same (length_fill_eq before length_eq)).2
  exact (List.append_inj from_id length_eq).1

theorem locate_injective (t : Template) : Function.Injective t.locate := by
  intro a b same
  exact String.toList_injective (fill_injective t.id_mem (String.ofList_injective same))

end SecretResolver.Template
