import InfraLint.Text.Native
import Mathlib.Data.List.Basic

/-!
Texts of the operating system and their bytes. Every sequence of bytes without NUL has its text, and
texts in UTF-8 are shown as they are.
-/
namespace InfraLint.Native

variable {s : String} {bs : List UInt8} {c : Char}

theorem isUtf8_iff : isUtf8 s = true ↔ mark ∉ s.toList := by
  simp [isUtf8]

theorem bytesOf_cons (plain : c ≠ mark) (cs : List Char) :
    bytesOf (c :: cs) = String.utf8EncodeChar c ++ bytesOf cs := by
  cases cs with
  | nil => simp [bytesOf]
  | cons b cs => rw [bytesOf, if_neg plain]

theorem bytesOf_plain {cs : List Char} (plain : mark ∉ cs) :
    bytesOf cs = cs.flatMap String.utf8EncodeChar := by
  induction cs with
  | nil => rfl
  | cons c cs ih =>
    obtain ⟨first, rest⟩ := not_or.mp (mt List.mem_cons.mpr plain)
    rw [bytesOf_cons (Ne.symm first), ih rest, List.flatMap_cons]

theorem utf8_eq_flatMap (s : String) :
    s.toUTF8.data.toList = s.toList.flatMap String.utf8EncodeChar := by
  rw [String.toUTF8_eq_toByteArray, ← String.utf8Encode_toList, List.utf8Encode]
  simp

/-- The bytes of a text in UTF-8 are its own. -/
theorem bytes_of_isUtf8 (utf8 : isUtf8 s = true) : bytes s = s.toUTF8.data.toList := by
  rw [bytes, bytesOf_plain (isUtf8_iff.mp utf8), utf8_eq_flatMap]

/-! Texts of bytes -/

theorem toUTF8_of_fromUTF8? {b : ByteArray} (read : String.fromUTF8? b = some s) :
    s.toUTF8 = b := by
  unfold String.fromUTF8? at read
  split at read
  · rw [← Option.some.inj read]
    rfl
  · cases read

theorem character?_eq_some {rest : List UInt8} (found : character? bs = some (c, rest)) :
    bs = String.utf8EncodeChar c ++ rest := by
  obtain ⟨n, _, found⟩ := List.exists_of_findSome?_eq_some found
  split at found
  · rename_i c' taken
    obtain ⟨rfl, rfl⟩ : c' = c ∧ bs.drop n = rest := by simpa using found
    obtain ⟨t, valid, chars⟩ := Option.map_eq_some_iff.mp taken
    have front := utf8_eq_flatMap t
    rw [toUTF8_of_fromUTF8? valid, List.toList_data_toByteArray, chars, List.flatMap_singleton]
      at front
    rw [← front, List.take_append_drop]
  · cases found

theorem byteChar_toNat (b : UInt8) : UInt8.ofNat (Char.ofNat b.toNat).toNat = b := by
  have valid : b.toNat.isValidChar := Or.inl (by have := b.toNat_lt; omega)
  have same : (Char.ofNat b.toNat).toNat = b.toNat := by
    rw [Char.ofNat, dif_pos valid]
    rfl
  rw [same, UInt8.ofNat_toNat]

theorem bytesOf_charsOf {fuel : Nat} (enough : bs.length ≤ fuel) (noNul : 0 ∉ bs) :
    bytesOf (charsOf fuel bs) = bs := by
  fun_induction charsOf fuel bs with
  | case1 bs => simp_all [bytesOf]
  | case2 => rfl
  | case3 fuel b rest c behind found ih =>
    have split := character?_eq_some found
    have some : String.utf8EncodeChar c ≠ [] := String.utf8EncodeChar_ne_nil
    have plain : c ≠ mark := by
      rintro rfl
      have nul : String.utf8EncodeChar mark = [0] := by decide
      simp [split, nul] at noNul
    have shorter : behind.length ≤ fuel := by
      have lengths := congrArg List.length split
      have positive := List.length_pos_iff.mpr some
      simp only [List.length_cons, List.length_append] at lengths enough
      omega
    rw [bytesOf_cons plain, ih shorter (by rw [split] at noNul; simp_all), split]
  | case4 fuel b rest none ih =>
    obtain ⟨_, behind⟩ := not_or.mp (mt List.mem_cons.mpr noNul)
    rw [bytesOf, if_pos rfl, byteChar_toNat, ih (by simpa using enough) behind]

/-- No byte is lost. -/
theorem bytes_ofBytes (noNul : 0 ∉ bs) : bytes (ofBytes bs) = bs := by
  rw [bytes, ofBytes, String.toList_ofList, bytesOf_charsOf (Nat.le_refl _) noNul]

/-! Texts as they are shown -/

theorem shownBehind_plain {expected : List (Nat × Nat)} {cs : List Char} (plain : mark ∉ cs) :
    shownBehind expected cs = cs := by
  fun_induction shownBehind expected cs with
  | case2 expected c =>
    have other : c ≠ mark := by simpa [eq_comm] using plain
    rw [if_neg other]
  | _ => simp_all

theorem mark_notMem_shownBehind (expected : List (Nat × Nat)) (cs : List Char) :
    mark ∉ shownBehind expected cs := by
  have replaced : mark ≠ '\uFFFD' := by decide
  fun_induction shownBehind expected cs with
  | case2 expected c =>
    rw [List.mem_singleton]
    split
    · exact replaced
    · rename_i other
      exact Ne.symm other
  | _ => simp_all [Ne.symm]

theorem shown_of_isUtf8 (utf8 : isUtf8 s = true) : shown s = s := by
  rw [shown, shownBehind_plain (isUtf8_iff.mp utf8), String.ofList_toList]

theorem isUtf8_shown (s : String) : isUtf8 (shown s) = true := by
  rw [isUtf8_iff, shown, String.toList_ofList]
  exact mark_notMem_shownBehind [] s.toList

end InfraLint.Native
