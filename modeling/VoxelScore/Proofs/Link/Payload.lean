import VoxelScore.Link.Payload
import VoxelScore.Proofs.Link.Base64
import VoxelScore.Proofs.Link.Spelling
import VoxelScore.Proofs.Success

/-!
# Payloads as they are written

A share payload is the base64 of the UTF-8 of a code text. Padding may be left away, any character
may be escaped, and blanks may be put in anywhere. Decoding undoes one layer after the other and
gives the code, trimmed.

## Main definitions

* `Spells`: a payload in any spelling that a code text has
* `Pads`: padding as it is written
* `Writes`: a payload as links write it for a code text, only its padding being escaped
* `payloadAlphabet`: the characters of such payloads

## Main results

* `decode_of_spells`: a payload is decoded to its code, whichever way it is spelled
* `trimmed_of_decode`: what a payload is decoded to is trimmed code
* `decode_spells_and_trims`: both together
-/

namespace VoxelScore.Payload

variable {n : ℕ} {c : Char} {code p t : Text}

/-! ## Writing -/

/-- The symbols of the UTF-8 of a code text. -/
def symbols (code : Text) : Text :=
  (Base64.unpack (Utf8.encode code)).map Base64.symbol

/-- **The payload spells the code**: its symbols, and the padding that completes them or none, any
of them escaped, and blanks put in anywhere. -/
inductive Spells (code : Text) : Text → Prop
  | mk {n : ℕ} {t p : Text} (count : n = 0 ∨ n = Base64.padCount (Utf8.encode code))
      (spelled : Percent.Spells (symbols code ++ List.replicate n '=') t)
      (scattered : Text.Scattered t p) : Spells code p

/-- So many padding characters, each as it is or escaped. -/
inductive Pads : ℕ → Text → Prop
  | nil : Pads 0 []
  | raw {n : ℕ} {t : Text} (behind : Pads n t) : Pads (n + 1) ('=' :: t)
  | escaped {n : ℕ} {t : Text} (behind : Pads n t) : Pads (n + 1) ('%' :: '3' :: 'D' :: t)

/-- **The payload is written for the code**: its symbols, and the padding that completes them or
none. -/
inductive Writes (code : Text) : Text → Prop
  | mk {n : ℕ} {pads : Text} (count : n = 0 ∨ n = Base64.padCount (Utf8.encode code))
      (written : Pads n pads) : Writes code (symbols code ++ pads)

theorem Pads.spells (h : Pads n t) : Percent.Spells (List.replicate n '=') t := by
  induction h with
  | nil => exact .nil
  | raw _ ih => exact .raw '=' ih
  | escaped _ ih => exact .escaped (by decide) (by decide) (by decide) ih

/-- What links write is one of the spellings. -/
theorem Writes.spells (h : Writes code p) : Spells code p := by
  obtain ⟨count, written⟩ := h
  exact ⟨count, (Percent.spells_self _).append written.spells, Text.scattered_self _⟩

/-! ## Characters -/

/-- The characters that payloads are written with. -/
def payloadAlphabet : Text := Base64.alphabet ++ ['=', '%']

theorem mem_alphabet_of_symbols (h : c ∈ symbols code) : c ∈ Base64.alphabet := by
  obtain ⟨v, -, rfl⟩ := List.mem_map.mp h
  exact List.get_mem _ _

theorem Pads.mem_payloadAlphabet (h : Pads n t) (hc : c ∈ t) : c ∈ payloadAlphabet := by
  induction h with
  | nil => cases hc
  | raw _ ih =>
    rcases List.mem_cons.mp hc with rfl | hc
    · decide
    · exact ih hc
  | escaped _ ih =>
    simp only [List.mem_cons] at hc
    rcases hc with rfl | rfl | rfl | hc
    · decide
    · decide
    · decide
    · exact ih hc

theorem Writes.mem_payloadAlphabet (h : Writes code p) (hc : c ∈ p) : c ∈ payloadAlphabet := by
  obtain ⟨-, written⟩ := h
  rcases List.mem_append.mp hc with hc | hc
  · exact List.mem_append_left _ (mem_alphabet_of_symbols hc)
  · exact written.mem_payloadAlphabet hc

/-- A fact about all characters of payloads, from the finitely many of them. -/
theorem payloadAlphabet_all {q : Char → Bool} (hq : payloadAlphabet.all q) (h : Writes code p)
    (hc : c ∈ p) : q c :=
  List.all_eq_true.mp hq c (h.mem_payloadAlphabet hc)

theorem Writes.isSolid (h : Writes code p) : Text.IsSolid p := by
  intro c hc
  simpa using payloadAlphabet_all (q := fun c => !Text.isBlank c) (by decide) h hc

/-- Symbols and padding are neither blanks nor percent signs. -/
theorem isSolid_padded (code : Text) (n : ℕ) :
    Text.IsSolid (symbols code ++ List.replicate n '=') ∧
      '%' ∉ symbols code ++ List.replicate n '=' := by
  have hall : (Base64.alphabet ++ ['=']).all fun c => !Text.isBlank c && c ≠ '%' := by decide
  have hmem : ∀ c ∈ symbols code ++ List.replicate n '=',
      Text.isBlank c = false ∧ c ≠ '%' := by
    intro c hc
    have hc' : c ∈ Base64.alphabet ++ ['='] := by
      rcases List.mem_append.mp hc with hc | hc
      · exact List.mem_append_left _ (mem_alphabet_of_symbols hc)
      · exact List.mem_append_right _ (List.mem_singleton.mpr (List.eq_of_mem_replicate hc))
    simpa using List.all_eq_true.mp hall c hc'
  exact ⟨fun c hc => (hmem c hc).1, fun hsign => (hmem '%' hsign).2 rfl⟩

/-! ## Reading -/

theorem encode_symbols (code : Text) :
    Utf8.encode (symbols code) = (Base64.unpack (Utf8.encode code)).map Base64.symbolByte := by
  have hascii : Base64.alphabet.all (·.toNat < 0x80) := by decide
  rw [Utf8.encode_of_ascii fun c hc => ?_]
  · exact List.map_map
  · simpa using List.all_eq_true.mp hascii c (mem_alphabet_of_symbols hc)

theorem encode_padding (n : ℕ) :
    Utf8.encode (List.replicate n '=') = List.replicate n Base64.padding := by
  induction n with
  | zero => rfl
  | succ n ih => rw [List.replicate_succ, Utf8.encode_cons, ih]; rfl

/-- Symbols and padding are read as the bytes that they write. -/
theorem decode_padded (count : n = 0 ∨ n = Base64.padCount (Utf8.encode code)) :
    Base64.decode (Utf8.encode (symbols code ++ List.replicate n '=')) = .ok (Utf8.encode code) := by
  rw [Utf8.encode_append, encode_symbols, encode_padding, Base64.decode_unpack count]

/-- **A payload is decoded to its code**, trimmed, whichever way it is spelled. -/
theorem decode_of_spells (h : Spells code p) (hc : Text.trim code ≠ []) :
    decode p = .ok (Text.trim code) := by
  -- layer by layer: blanks, escapes, padding, and then the UTF-8 of the code
  obtain ⟨count, spelled, scattered⟩ := h
  obtain ⟨hsolid, hsign⟩ := isSolid_padded code _
  have hblanks := scattered.filter (spelled.isSolid hsolid)
  have hescapes := spelled.decodeText hsign
  have hbytes := decode_padded count
  have hne : (Text.trim code).isEmpty = false := by
    rwa [Bool.eq_false_iff, ne_eq, List.isEmpty_iff]
  unfold decode
  simp only [hblanks, hescapes, Except.mapError, bind, Except.bind, hbytes, Utf8.decode_encode, hne]
  rfl

/-- **A written payload is decoded to its code**, trimmed. -/
theorem decode_of_writes (h : Writes code p) (hc : ¬ Text.IsBlankText code) :
    decode p = .ok (Text.trim code) :=
  decode_of_spells h.spells (mt Text.trim_eq_nil_iff.mp hc)

/-- What a payload is decoded to is trimmed code, and there is some of it. -/
theorem trimmed_of_decode (h : decode p = .ok code) : code ≠ [] ∧ Text.IsTrimmed code := by
  unfold decode at h
  obtain ⟨unescaped, -, h⟩ := Except.bind_eq_ok_iff.mp h
  obtain ⟨bytes, -, h⟩ := Except.bind_eq_ok_iff.mp h
  obtain ⟨decoded, -, h⟩ := Except.bind_eq_ok_iff.mp h
  by_cases hnil : (Text.trim decoded).isEmpty
  · rw [if_pos hnil] at h
    cases h
  · rw [if_neg hnil] at h
    cases h
    exact ⟨mt List.isEmpty_iff.mpr hnil, Text.isTrimmed_trim decoded⟩

/-- **Decoding undoes every spelling.** A payload that spells code which is not blank is decoded to
that code, trimmed; and whatever a payload is decoded to is not empty and has no blank at either
end. -/
theorem decode_spells_and_trims :
    (∀ code p, Text.trim code ≠ [] → Spells code p → decode p = .ok (Text.trim code)) ∧
      ∀ p code, decode p = .ok code → code ≠ [] ∧ Text.IsTrimmed code :=
  ⟨fun _ _ hc h => decode_of_spells h hc, fun _ _ h => trimmed_of_decode h⟩

/-- Escapes with a small and with a capital digit, a blank inside one of them, others at the ends and
between the symbols. -/
theorem decode_spells_and_trims_scattered :
    Text.trim "  $: s(\"é\")\n".toList ≠ [] ∧
    Spells "  $: s(\"é\")\n".toList "\tIC%41kOi B\nzKC% 4cDqSIpCg%3D=\u3000".toList ∧
    decode "\tIC%41kOi B\nzKC% 4cDqSIpCg%3D=\u3000".toList = .ok "$: s(\"é\")".toList ∧
    "$: s(\"é\")".toList ≠ [] ∧ Text.IsTrimmed "$: s(\"é\")".toList := by
  have hcode : Text.trim "  $: s(\"é\")\n".toList ≠ [] := by decide
  have hspelled : Percent.Spells "ICAkOiBzKCLDqSIpCg==".toList
      "IC%41kOiBzKC%4cDqSIpCg%3D=".toList :=
    (Percent.spells_self "IC".toList).append <| .escaped (by decide) (by decide) (by decide) <|
      (Percent.spells_self "kOiBzKC".toList).append <|
        .escaped (by decide) (by decide) (by decide) <|
          (Percent.spells_self "DqSIpCg".toList).append <|
            .escaped (by decide) (by decide) (by decide) (Percent.spells_self ['='])
  have hscattered : Text.Scattered "IC%41kOiBzKC%4cDqSIpCg%3D=".toList
      "\tIC%41kOi B\nzKC% 4cDqSIpCg%3D=\u3000".toList :=
    Text.scattered_filter "\tIC%41kOi B\nzKC% 4cDqSIpCg%3D=\u3000".toList
  have hspells : Spells "  $: s(\"é\")\n".toList
      "\tIC%41kOi B\nzKC% 4cDqSIpCg%3D=\u3000".toList := ⟨.inr rfl, hspelled, hscattered⟩
  obtain ⟨hdecode, htrimmed⟩ := decode_spells_and_trims
  have hfound := hdecode _ _ hcode hspells
  exact ⟨hcode, hspells, hfound, htrimmed _ _ hfound⟩

end VoxelScore.Payload
