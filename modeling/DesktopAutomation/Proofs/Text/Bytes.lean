/-! The bytes of texts. Texts are in the order of their characters, which is that of their bytes:
the bytes of a character differ from those of a later one before either of them ends.
-/

namespace DesktopAutomation.Text

/-- The bytes of a text. -/
def bytes (text : String) : List UInt8 := text.toUTF8.data.toList

theorem bytes_eq_flatMap (text : String)
    : bytes text = text.toList.flatMap String.utf8EncodeChar := by
  rw [bytes, String.toUTF8, ← String.utf8Encode_toList, List.utf8Encode, List.data_toByteArray]

/-- What is written of a text is read back. -/
theorem fromUTF8?_toUTF8 (text : String) : String.fromUTF8? text.toUTF8 = some text :=
  dif_pos text.isValidUTF8

theorem ofNat_lt_ofNat_iff {byte other : Nat} (small : byte < 256) (smallOther : other < 256)
    : UInt8.ofNat byte < UInt8.ofNat other ↔ byte < other := by
  simp [UInt8.lt_iff_toNat_lt, Nat.mod_eq_of_lt small, Nat.mod_eq_of_lt smallOther]

theorem ofNat_eq_ofNat_iff {byte other : Nat} (small : byte < 256) (smallOther : other < 256)
    : UInt8.ofNat byte = UInt8.ofNat other ↔ byte = other := by
  simp [← UInt8.toNat_inj, Nat.mod_eq_of_lt small, Nat.mod_eq_of_lt smallOther]

/-- The bytes of a character come before those of a later one, whatever follows them. -/
theorem utf8EncodeChar_append_lt {c d : Char} (before : c < d) (behind other : List UInt8)
    : String.utf8EncodeChar c ++ behind < String.utf8EncodeChar d ++ other := by
  have less : c.val.toNat < d.val.toNat := UInt32.lt_iff_toNat_lt.mp (Char.lt_def.mp before)
  have bounded : d.val.toNat < 0x110000 := by
    have valid := d.valid
    simp only [UInt32.isValidChar, Nat.isValidChar] at valid
    omega
  have twice (n : Nat) : n / 4096 = n / 64 / 64 := (Nat.div_div_eq_div_mul n 64 64).symm
  have thrice (n : Nat) : n / 262144 = n / 64 / 64 / 64 := by
    rw [Nat.div_div_eq_div_mul, Nat.div_div_eq_div_mul]
  simp only [String.utf8EncodeChar, twice, thrice]
  -- More bytes start with a greater one; as many are compared six bits at a time, from the top.
  generalize c.val.toNat = v at less
  generalize d.val.toNat = w at less bounded
  repeat' split
  all_goals
    first
    | omega
    | simp (disch := omega) only [List.cons_append, List.nil_append, List.cons_lt_cons_iff,
        ofNat_lt_ofNat_iff, ofNat_eq_ofNat_iff]
      omega

theorem flatMap_utf8EncodeChar_lt {chars others : List Char} (before : chars < others)
    : chars.flatMap String.utf8EncodeChar < others.flatMap String.utf8EncodeChar := by
  induction chars generalizing others with
  | nil =>
      cases others with
      | nil => exact absurd before (List.lt_irrefl [])
      | cons d rest =>
          have some : String.utf8EncodeChar d ≠ [] := String.utf8EncodeChar_ne_nil
          obtain ⟨byte, more, bytes⟩ := List.exists_cons_of_ne_nil some
          rw [List.flatMap_nil, List.flatMap_cons, bytes, List.cons_append]
          exact List.nil_lt_cons ..
  | cons c chars ih =>
      cases others with
      | nil => exact absurd before (List.not_lt_nil _)
      | cons d rest =>
          rw [List.flatMap_cons, List.flatMap_cons]
          rcases List.cons_lt_cons_iff.mp before with less | ⟨rfl, behind⟩
          · exact utf8EncodeChar_append_lt less _ _
          · exact List.append_left_lt (ih behind)

/-- The order of texts is that of their bytes. -/
theorem lt_iff_bytes_lt (text other : String) : text < other ↔ bytes text < bytes other := by
  have forward {text other : String} (before : text < other) : bytes text < bytes other := by
    rw [bytes_eq_flatMap, bytes_eq_flatMap]
    exact flatMap_utf8EncodeChar_lt (String.lt_iff.mp before)
  refine ⟨forward, fun before => ?_⟩
  rcases Std.lt_trichotomy text other with less | rfl | more
  · exact less
  · exact absurd before (List.lt_irrefl _)
  · exact absurd (forward more) (List.lt_asymm before)

end DesktopAutomation.Text
