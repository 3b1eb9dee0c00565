import TraceRelay.Text.Blank
import TraceRelay.Text.Percent

/-!
# Percent encoding is undone by decoding

Each octet is read back from its written form whatever follows (`percentDecodeOctets_encoded`), so a
text is read back from its own (`percentDecode?_percentEncode`). Written forms are made of few
characters (`code_of_mem_percentEncode`), none of which means anything in a list of members
(`wire_of_mem_percentEncode`).
-/

namespace TraceRelay

/-- A character that neither ends a key, nor a member, nor is trimmed away. -/
def IsWire (c : Char) : Prop := c ≠ ',' ∧ c ≠ '=' ∧ isBlank c = false

instance (c : Char) : Decidable (IsWire c) := inferInstanceAs (Decidable (_ ∧ _))

/-- What texts are written with: letters and digits of ASCII, and a few signs. -/
def IsCode (c : Char) : Prop := c.isAlphanum = true ∨ c ∈ "-_.~/%".toList

instance (c : Char) : Decidable (IsCode c) := inferInstanceAs (Decidable (_ ∨ _))

theorem IsCode.lt {c : Char} (h : IsCode c) : c.toNat < 128 := by
  rcases h with h | h
  · have hz : 'z'.val.toNat = 122 := rfl
    have hZ : 'Z'.val.toNat = 90 := rfl
    have hnine : '9'.val.toNat = 57 := rfl
    delta Char.isAlphanum Char.isAlpha Char.isUpper Char.isLower Char.isDigit at h
    simp only [Bool.or_eq_true, Bool.and_eq_true, decide_eq_true_eq, ge_iff_le, UInt32.le_iff_toNat_le] at h
    rw [Char.toNat]
    omega
  · have hall : "-_.~/%".toList.all (fun c => c.toNat < 128) = true := by decide
    exact of_decide_eq_true (List.all_eq_true.1 hall c h)

theorem IsCode.of_ascii {P : Char → Prop} (h : ∀ n < 128, IsCode (Char.ofNat n) → P (Char.ofNat n)) {c : Char}
    (hc : IsCode c) : P c := by
  have hn := h c.toNat hc.lt
  rw [Char.ofNat_toNat] at hn
  exact hn hc

theorem IsCode.isWire {c : Char} (h : IsCode c) : IsWire c := h.of_ascii (by decide +kernel)

theorem IsCode.printable {c : Char} (h : IsCode c) : 0x20 < c.toNat ∧ c.toNat < 0x7f :=
  h.of_ascii (P := fun c => 0x20 < c.toNat ∧ c.toNat < 0x7f) (by decide +kernel)

theorem octets_append (a b : List Char) : octets (a ++ b) = octets a ++ octets b := List.flatMap_append

/-! ## Octets -/

theorem octets_plain : ∀ n < 128, octets [Char.ofNat n] = [UInt8.ofNat n] := by decide +kernel

def hexOctet (n : Nat) : UInt8 := UInt8.ofNat (upperHexDigit n).toNat

theorem octets_upperHexDigit : ∀ n < 16, octets [upperHexDigit n] = [hexOctet n] := by decide +kernel

theorem hexValue?_hexOctet : ∀ n < 16, hexValue? (hexOctet n) = some (UInt8.ofNat n) := by decide +kernel

theorem octets_triple (h l : Char) : octets ['%', h, l] = 37 :: (octets [h] ++ octets [l]) := by
  have hmark : octets ['%'] = [37] := by decide
  have hsplit : ['%', h, l] = ['%'] ++ ([h] ++ [l]) := rfl
  rw [hsplit, octets_append, octets_append, hmark]
  rfl

theorem lt_of_isPlain {b : UInt8} (h : isPlain b = true) : b.toNat < 128 ∧ b ≠ 37 := by
  simp only [isPlain, Bool.or_eq_true, Bool.and_eq_true, decide_eq_true_eq, beq_iff_eq, UInt8.le_iff_toNat_le,
    ← UInt8.toNat_inj, ne_eq, UInt8.toNat_ofNat] at h ⊢
  omega

theorem code_plain : ∀ n < 128, isPlain (UInt8.ofNat n) = true → IsCode (Char.ofNat n) := by decide +kernel

theorem code_upperHexDigit : ∀ n < 16, IsCode (upperHexDigit n) := by decide +kernel

theorem code_of_mem_percentEncodeOctet (b : UInt8) : ∀ c ∈ percentEncodeOctet b, IsCode c := by
  have hb := b.toNat_lt
  unfold percentEncodeOctet
  intro c hc
  split at hc
  · rename_i hp
    rw [List.mem_singleton.1 hc]
    exact code_plain _ (lt_of_isPlain hp).1 (by rwa [UInt8.ofNat_toNat])
  · simp only [List.mem_cons, List.not_mem_nil, or_false] at hc
    rcases hc with rfl | rfl | rfl
    · decide
    · exact code_upperHexDigit _ (by omega)
    · exact code_upperHexDigit _ (by omega)

theorem percentDecodeOctets_cons {b : UInt8} (h : b ≠ 37) (rest : List UInt8) :
    percentDecodeOctets (b :: rest) = b :: percentDecodeOctets rest := by
  rw [percentDecodeOctets]
  grind

theorem percentDecodeOctets_hex {m n : Nat} (hm : m < 16) (hn : n < 16) (rest : List UInt8) :
    percentDecodeOctets (37 :: hexOctet m :: hexOctet n :: rest) =
      (UInt8.ofNat m * 16 + UInt8.ofNat n) :: percentDecodeOctets rest := by
  rw [percentDecodeOctets]
  simp only [hexValue?_hexOctet m hm, hexValue?_hexOctet n hn]

theorem percentDecodeOctets_encoded (b : UInt8) (rest : List UInt8) :
    percentDecodeOctets (octets (percentEncodeOctet b) ++ rest) = b :: percentDecodeOctets rest := by
  have hb := b.toNat_lt
  unfold percentEncodeOctet
  split
  · rename_i hp
    obtain ⟨hlt, hne⟩ := lt_of_isPlain hp
    rw [octets_plain _ hlt, UInt8.ofNat_toNat]
    exact percentDecodeOctets_cons hne rest
  · have hhigh : b.toNat / 16 < 16 := by omega
    have hlow : b.toNat % 16 < 16 := by omega
    rw [octets_triple, octets_upperHexDigit _ hhigh, octets_upperHexDigit _ hlow]
    refine (percentDecodeOctets_hex hhigh hlow rest).trans ?_
    congr 1
    rw [← UInt8.toNat_inj]
    simp only [UInt8.toNat_add, UInt8.toNat_mul, UInt8.toNat_ofNat, UInt8.toNat_ofNat']
    omega

theorem code_of_mem_percentEncode {text : List Char} {c : Char} (h : c ∈ percentEncode text) : IsCode c := by
  obtain ⟨b, -, hc⟩ := List.mem_flatMap.1 h
  exact code_of_mem_percentEncodeOctet b c hc

theorem wire_of_mem_percentEncode {text : List Char} {c : Char} (h : c ∈ percentEncode text) : IsWire c :=
  (code_of_mem_percentEncode h).isWire

theorem percentDecodeOctets_flatMap (bs : List UInt8) :
    percentDecodeOctets (octets (bs.flatMap percentEncodeOctet)) = bs := by
  induction bs with
  | nil => rfl
  | cons b bs ih => rw [List.flatMap_cons, octets_append, percentDecodeOctets_encoded, ih]

theorem percentDecode?_percentEncode (text : List Char) :
    percentDecode? (percentEncode text) = some (String.ofList text) := by
  rw [percentDecode?, percentEncode, percentDecodeOctets_flatMap]
  have hvalid : (octets text).toByteArray.IsValidUTF8 := ByteArray.isValidUTF8_utf8Encode (l := text)
  rw [String.fromUTF8?, dif_pos hvalid, Option.some_inj, ← String.toByteArray_inj, String.toByteArray_ofList]
  rfl

end TraceRelay
