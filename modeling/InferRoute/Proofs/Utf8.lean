import InferRoute.Text.Utf8
import Mathlib

/-! Lossy UTF-8 decoding cut at an ASCII octet. An octet below `0x80` is a character of its own
and never continues a longer sequence, so the text of bytes cut just before such an octet is the
text of the two parts read apart (`decode_append_of_ascii`). Every multi-octet character that
the lead table admits lies above `0x7F`, and U+FFFD is no ASCII character either, so an ASCII
character other than NUL in the text comes from that very octet (`ascii_mem_decode`), and ends
the text only when the octet ends the bytes (`getLast_decode_ascii`). All three follow from one
step of the decoder, `decode_cons_step`. -/

namespace InferRoute.Utf8

/-! ### Characters -/

theorem toNat_lt_of_ascii {a : UInt8} (ha : a < 0x80) : a.toNat < 0x80 := by
  rw [UInt8.lt_iff_toNat_lt] at ha
  simpa using ha

theorem ascii_toNat_ofNat {a : UInt8} (ha : a < 0x80) : (Char.ofNat a.toNat).toNat = a.toNat := by
  have hlt := toNat_lt_of_ascii ha
  rw [Char.toNat_ofNat, if_pos (by simp [Nat.isValidChar]; omega)]

theorem ascii_ofNat_inj {a b : UInt8} (ha : a < 0x80) (hb : b < 0x80)
    (h : Char.ofNat b.toNat = Char.ofNat a.toNat) : b = a := by
  have htoNat := congrArg Char.toNat h
  rw [ascii_toNat_ofNat ha, ascii_toNat_ofNat hb] at htoNat
  exact UInt8.toNat_inj.1 htoNat

/-- A code point above `0x7F` is no ASCII character but NUL, whether or not it is valid (an
invalid one reads as NUL). -/
theorem ofNat_ne_ascii {v : Nat} (hv : 0x80 ≤ v) {a : UInt8} (ha : a < 0x80) (ha0 : a ≠ 0) :
    Char.ofNat v ≠ Char.ofNat a.toNat := by
  intro h
  have htoNat := congrArg Char.toNat h
  rw [ascii_toNat_ofNat ha, Char.toNat_ofNat] at htoNat
  have hpos : a.toNat ≠ 0 := fun h0 => ha0 (UInt8.toNat_inj.1 (by simpa using h0))
  have hlt := toNat_lt_of_ascii ha
  split at htoNat <;> omega

theorem replacement_ne_ascii {a : UInt8} (ha : a < 0x80) : replacement ≠ Char.ofNat a.toNat := by
  intro h
  have htoNat := congrArg Char.toNat h
  rw [ascii_toNat_ofNat ha] at htoNat
  have hlt := toNat_lt_of_ascii ha
  have hfffd : replacement.toNat = 0xFFFD := rfl
  omega

/-! ### The lead table and its continuation octets -/

/-- What every row of the lead table promises: continuation octets within `0x80`–`0xBF`, at
least one of them, and a code point above `0x7F` once they have all come. The last bound is read
off the payload and the least first continuation octet. -/
theorem lead_bounds {b : UInt8} {l : Lead} (h : lead b = some l) :
    0x80 ≤ l.low ∧ l.high ≤ 0xBF ∧ 1 ≤ l.more ∧
      0x80 ≤ (l.payload * 64 + (l.low.toNat - 0x80)) * Nat.pow 64 (l.more - 1) := by
  unfold lead at h
  dsimp only at h
  -- one goal per row of the table; the last row admits no lead octet
  repeat' split at h
  all_goals simp only [Option.some.injEq, reduceCtorEq] at h
  all_goals subst h
  all_goals simp
  all_goals omega

/-- An ASCII octet after the bytes is never taken as a continuation octet. -/
theorem takeTail_append_of_ascii (count : Nat) (low high : UInt8) (acc : Nat) (bs c : List UInt8)
    (hc : ∀ b ∈ c.head?, b < 0x80) (hlow : 0x80 ≤ low) :
    takeTail count low high acc (bs ++ c) = takeTail count low high acc bs := by
  induction bs generalizing count low high acc with
  | nil =>
    cases c with
    | nil => rfl
    | cons b rest =>
      have hb := hc b rfl
      cases count with
      | zero => rfl
      | succ count =>
        have hout : ¬(low ≤ b ∧ b ≤ high) := by
          rintro ⟨hlb, -⟩
          rw [UInt8.lt_iff_toNat_lt] at hb
          rw [UInt8.le_iff_toNat_le] at hlow hlb
          simp at hb hlow
          omega
        simp [takeTail, hout]
  | cons b rest ih =>
    cases count with
    | zero => rfl
    | succ count => simp only [List.cons_append, takeTail, ih count 0x80 0xBF _ (by decide)]

/-- Each continuation octet taken shifts the gathered bits six places up. -/
theorem takeTail_value_ge (count : Nat) (low high : UInt8) (acc : Nat) (bs : List UInt8) :
    acc * Nat.pow 64 (takeTail count low high acc bs).1 ≤ (takeTail count low high acc bs).2 := by
  induction bs generalizing count low high acc with
  | nil => simp [takeTail]
  | cons b rest ih =>
    cases count with
    | zero => simp [takeTail]
    | succ count =>
      simp only [takeTail]
      split
      · have hrest := ih count 0x80 0xBF (acc * 64 + b.toNat % 64)
        generalize takeTail count 0x80 0xBF (acc * 64 + b.toNat % 64) rest = r at hrest ⊢
        obtain ⟨k, v⟩ := r
        calc acc * Nat.pow 64 (k + 1)
            = acc * 64 * Nat.pow 64 k := by
              rw [show Nat.pow 64 (k + 1) = Nat.pow 64 k * 64 from rfl, Nat.mul_comm _ 64,
                Nat.mul_assoc]
          _ ≤ (acc * 64 + b.toNat % 64) * Nat.pow 64 k :=
              Nat.mul_le_mul_right _ (Nat.le_add_right _ _)
          _ ≤ v := hrest
      · simp [Nat.pow]

/-- Once a first continuation octet is taken, its least value counts as well. -/
theorem takeTail_first_ge (count : Nat) (low high : UInt8) (acc : Nat) (bs : List UInt8)
    (hlow : 0x80 ≤ low) (hhigh : high ≤ 0xBF) (hk : 0 < (takeTail count low high acc bs).1) :
    (acc * 64 + (low.toNat - 0x80)) * Nat.pow 64 ((takeTail count low high acc bs).1 - 1) ≤
      (takeTail count low high acc bs).2 := by
  cases bs with
  | nil => simp [takeTail] at hk
  | cons b rest =>
    cases count with
    | zero => simp [takeTail] at hk
    | succ count =>
      by_cases hin : low ≤ b ∧ b ≤ high
      · simp only [takeTail, hin, and_self, if_true] at hk ⊢
        have hrest := takeTail_value_ge count 0x80 0xBF (acc * 64 + b.toNat % 64) rest
        generalize takeTail count 0x80 0xBF (acc * 64 + b.toNat % 64) rest = r at hrest ⊢
        obtain ⟨k, v⟩ := r
        -- a continuation octet carries its value in its low six bits
        have hbits : low.toNat - 0x80 ≤ b.toNat % 64 := by
          obtain ⟨hlb, hbh⟩ := hin
          rw [UInt8.le_iff_toNat_le] at hlow hhigh hlb hbh
          simp at hlow hhigh
          omega
        calc (acc * 64 + (low.toNat - 0x80)) * Nat.pow 64 (k + 1 - 1)
            ≤ (acc * 64 + b.toNat % 64) * Nat.pow 64 k :=
              Nat.mul_le_mul (Nat.add_le_add_left hbits _) (by simp)
          _ ≤ v := hrest
      · simp [takeTail, hin] at hk

/-- A complete multi-octet character lies above `0x7F`. -/
theorem lead_value_ge {b : UInt8} {l : Lead} (hl : lead b = some l) (rest : List UInt8)
    (hk : (takeTail l.more l.low l.high l.payload rest).1 = l.more) :
    0x80 ≤ (takeTail l.more l.low l.high l.payload rest).2 := by
  obtain ⟨hlow, hhigh, hmore, hbound⟩ := lead_bounds hl
  have hfirst := takeTail_first_ge l.more l.low l.high l.payload rest hlow hhigh (by omega)
  rw [hk] at hfirst
  omega

/-! ### One step of the decoder -/

theorem decode_cons_ascii {b : UInt8} (hb : b < 0x80) (rest : List UInt8) :
    decode (b :: rest) = Char.ofNat b.toNat :: decode rest := by
  rw [decode]
  simp [hb]

theorem decode_cons_invalid {b : UInt8} (hb : ¬b < 0x80) (hl : lead b = none)
    (rest : List UInt8) : decode (b :: rest) = replacement :: decode rest := by
  rw [decode]
  simp [hb, hl]

theorem decode_cons_lead {b : UInt8} (hb : ¬b < 0x80) {l : Lead} (hl : lead b = some l)
    (rest : List UInt8) :
    decode (b :: rest) =
      (if (takeTail l.more l.low l.high l.payload rest).1 = l.more then
        Char.ofNat (takeTail l.more l.low l.high l.payload rest).2 else replacement) ::
        decode (rest.drop (takeTail l.more l.low l.high l.payload rest).1) := by
  rw [decode]
  simp only [hb, if_false, hl]
  generalize takeTail l.more l.low l.high l.payload rest = r
  obtain ⟨k, v⟩ := r
  by_cases hk : k = l.more <;> simp [hk]

theorem decode_eq_nil_iff (bs : List UInt8) : decode bs = [] ↔ bs = [] := by
  cases bs with
  | nil => simp [decode]
  | cons b rest =>
    simp only [reduceCtorEq, iff_false]
    by_cases hb : b < 0x80
    · simp [decode_cons_ascii hb]
    · cases hl : lead b with
      | none => simp [decode_cons_invalid hb hl]
      | some l => simp [decode_cons_lead hb hl]

/-- One step of the decoder: the first character of the text of `b :: rest`, and the `k` octets
after `b` that it takes. Bytes appended after an ASCII octet do not change the step, and the
character is `b` itself or no ASCII character but NUL. -/
theorem decode_cons_step (b : UInt8) (rest : List UInt8) :
    ∃ ch k, k ≤ rest.length ∧ decode (b :: rest) = ch :: decode (rest.drop k) ∧
      (∀ c : List UInt8, (∀ x ∈ c.head?, x < 0x80) →
        decode (b :: (rest ++ c)) = ch :: decode (rest.drop k ++ c)) ∧
      ((b < 0x80 ∧ ch = Char.ofNat b.toNat ∧ k = 0) ∨
        ∀ a : UInt8, a < 0x80 → a ≠ 0 → ch ≠ Char.ofNat a.toNat) := by
  by_cases hb : b < 0x80
  · refine ⟨_, 0, Nat.zero_le _, decode_cons_ascii hb rest, fun c _ => ?_, .inl ⟨hb, rfl, rfl⟩⟩
    rw [decode_cons_ascii hb]
    rfl
  cases hl : lead b with
  | none =>
    refine ⟨replacement, 0, Nat.zero_le _, decode_cons_invalid hb hl rest, fun c _ => ?_,
      .inr fun a ha _ => replacement_ne_ascii ha⟩
    rw [decode_cons_invalid hb hl]
    rfl
  | some l =>
    have hle := takeTail_le l.more l.low l.high l.payload rest
    refine ⟨_, _, hle, decode_cons_lead hb hl rest, fun c hc => ?_, .inr fun a ha ha0 => ?_⟩
    · rw [decode_cons_lead hb hl, takeTail_append_of_ascii _ _ _ _ _ _ hc (lead_bounds hl).1,
        List.drop_append_of_le_length hle]
    · split
      · next hk => exact ofNat_ne_ascii (lead_value_ge hl rest hk) ha ha0
      · exact replacement_ne_ascii ha

/-! ### Cutting at an ASCII octet -/

/-- The text of bytes followed by more that start with an ASCII octet is the two texts. -/
theorem decode_append_of_ascii (bs c : List UInt8) (hc : ∀ b ∈ c.head?, b < 0x80) :
    decode (bs ++ c) = decode bs ++ decode c := by
  match bs with
  | [] => simp [decode]
  | b :: rest =>
    obtain ⟨ch, k, hk, hdec, happ, -⟩ := decode_cons_step b rest
    rw [List.cons_append, happ c hc, hdec, decode_append_of_ascii (rest.drop k) c hc]
    rfl
termination_by bs.length
decreasing_by simp only [List.length_cons, List.length_drop]; omega

/-- An ASCII character other than NUL is in the text only if its octet is in the bytes. -/
theorem ascii_mem_decode {a : UInt8} (ha : a < 0x80) (ha0 : a ≠ 0) (bs : List UInt8)
    (h : Char.ofNat a.toNat ∈ decode bs) : a ∈ bs := by
  match bs with
  | [] => simp [decode] at h
  | b :: rest =>
    obtain ⟨ch, k, hk, hdec, -, hch⟩ := decode_cons_step b rest
    rw [hdec, List.mem_cons] at h
    rcases h with h | h
    · rcases hch with ⟨hb, rfl, -⟩ | hne
      · rw [ascii_ofNat_inj ha hb h.symm]
        exact List.mem_cons_self
      · exact absurd h.symm (hne a ha ha0)
    · exact List.mem_cons_of_mem _ (List.mem_of_mem_drop (ascii_mem_decode ha ha0 _ h))
termination_by bs.length
decreasing_by simp only [List.length_cons, List.length_drop]; omega

/-- The text ends with an ASCII character other than NUL only if the bytes end with its octet. -/
theorem getLast_decode_ascii {a : UInt8} (ha : a < 0x80) (ha0 : a ≠ 0) (bs : List UInt8)
    (h : (decode bs).getLast? = some (Char.ofNat a.toNat)) : bs.getLast? = some a := by
  match bs with
  | [] => simp [decode] at h
  | b :: rest =>
    obtain ⟨ch, k, hk, hdec, -, hch⟩ := decode_cons_step b rest
    rw [hdec, List.getLast?_cons] at h
    cases hlast : (decode (rest.drop k)).getLast? with
    | none =>
      -- the first character is the last, so it took every octet
      rw [hlast, Option.getD_none, Option.some.injEq] at h
      have hnil : rest.drop k = [] := (decode_eq_nil_iff _).1 (List.getLast?_eq_none_iff.1 hlast)
      rcases hch with ⟨hb, rfl, rfl⟩ | hne
      · rw [List.drop_zero] at hnil
        subst hnil
        rw [ascii_ofNat_inj ha hb h]
        rfl
      · exact absurd h (hne a ha ha0)
    | some last =>
      rw [hlast, Option.getD_some, Option.some.injEq] at h
      subst h
      have hrest := getLast_decode_ascii ha ha0 _ hlast
      rw [List.getLast?_drop] at hrest
      split at hrest
      · cases hrest
      · rw [List.getLast?_cons, hrest]
        rfl
termination_by bs.length
decreasing_by simp only [List.length_cons, List.length_drop]; omega

end InferRoute.Utf8
