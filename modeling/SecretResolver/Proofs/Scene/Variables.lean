import SecretResolver.Proofs.Text.Encoding
import SecretResolver.Scene

set_option autoImplicit false

namespace SecretResolver.Scene

theorem written_toUTF8 (name value : String) :
    written name value.toUTF8.data.toList = Text.utf8 (name ++ "=" ++ value).toList := by
  have equals : Text.utf8 ['='] = ['='.toUInt8] := rfl
  rw [written, Text.toList_toUTF8, Text.toList_toUTF8, String.toList_append, String.toList_append,
    Text.utf8_append, Text.utf8_append, List.append_assoc]
  exact congrArg _ (congrArg (· ++ _) equals.symm)

theorem written_append (name : String) (value : List UInt8) :
    written name value = written name [] ++ value := by
  simp [written]

theorem valueIn?_self (name : String) (value : ByteArray) :
    valueIn? name (name, value) = some value := by
  have start : (written name []).isPrefixOf (written name value.data.toList) = true := by
    rw [written_append name value.data.toList, List.isPrefixOf_iff_prefix]
    exact List.prefix_append _ _
  have rest : (written name value.data.toList).drop (written name []).length =
      value.data.toList := by
    rw [written_append name value.data.toList, List.drop_left]
  simp only [valueIn?]
  rw [if_pos start, rest]
  exact congrArg some (ByteArray.ext (by simp))

theorem prefix_of_valueIn? {sought name value : String} {found : ByteArray}
    (isFound : valueIn? sought (name, value.toUTF8) = some found) :
    (sought ++ "=").toList <+: (name ++ "=" ++ value).toList := by
  have starts : written sought [] <+: written name value.toUTF8.data.toList := by
    simp only [valueIn?] at isFound
    split at isFound
    · next starts => exact List.isPrefixOf_iff_prefix.1 starts
    · cases isFound
  have sought_eq : written sought [] = Text.utf8 (sought ++ "=").toList := by
    have whole := written_toUTF8 sought ""
    rwa [String.append_empty] at whole
  rw [sought_eq, written_toUTF8] at starts
  exact Text.utf8_prefix_iff.1 starts

-- No variable's name, written with its equals sign, begins the one that is sought, so that nothing a
-- variable holds can be a part of that name.
def Unmistakable (s : Scene) (sought : String) : Prop :=
  ∀ entry ∈ s.environment, ¬ (entry.1 ++ "=").toList <+: sought.toList

theorem eq_of_prefix_written {sought name : String} {value : List UInt8}
    (plain : '=' ∉ name.toList) (unmistakable : ¬ (name ++ "=").toList <+: sought.toList)
    (starts : written sought [] <+: written name value) : name = sought := by
  have begins (name : String) : written name [] = Text.utf8 (name ++ "=").toList := by
    have whole := written_toUTF8 name ""
    rwa [String.append_empty] at whole
  have own : written name [] <+: written name value := by
    rw [written_append name value]
    exact List.prefix_append _ _
  rw [begins] at starts own
  have spelled (name : String) : (name ++ "=").toList = name.toList ++ ['='] := String.toList_append
  rcases List.prefix_or_prefix_of_prefix own starts with shorter | shorter
  · have shorter := Text.utf8_prefix_iff.1 shorter
    rw [spelled sought] at shorter
    rcases List.prefix_concat_iff.1 shorter with same | within
    · rw [spelled] at same
      exact String.toList_inj.1 (List.append_cancel_right same)
    · exact absurd within unmistakable
  · have shorter := Text.utf8_prefix_iff.1 shorter
    rw [spelled name] at shorter
    rcases List.prefix_concat_iff.1 shorter with same | within
    · rw [spelled] at same
      exact (String.toList_inj.1 (List.append_cancel_right same)).symm
    · refine absurd (within.subset ?_) plain
      rw [spelled]
      exact List.mem_append_right _ List.mem_cons_self

theorem valueIn?_eq {sought name : String} (plain : '=' ∉ name.toList)
    (unmistakable : ¬ (name ++ "=").toList <+: sought.toList) (value : ByteArray) :
    valueIn? sought (name, value) = if name = sought then some value else none := by
  split
  · next same => rw [same, valueIn?_self]
  · next differs =>
    simp only [valueIn?]
    rw [if_neg]
    intro starts
    exact differs (eq_of_prefix_written plain unmistakable (List.isPrefixOf_iff_prefix.1 starts))

end SecretResolver.Scene
