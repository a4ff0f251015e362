/-
# Writing back what UTF-8 reads

A code point has one written form. The announcements of a first byte keep all
others out: `C2` is the least first byte of two, `E0` and `F0` narrow the second
byte from below, and `F4` from above. So a step of the lenient reader takes the
bytes of the code point that it gives (`encodePoint_of_stepWith`), and bytes
that are read as a text are the bytes of the text (`encode_of_decodePassing`).
-/

import Hotspot.Proofs.Text.Utf8Reading
import Mathlib.Data.List.Basic

namespace Hotspot
namespace Utf8

variable {b second : UInt8} {bytes rest : Bytes} {c : CodePoint} {n : Nat}

/-! ## Bytes of a number -/

/-- A code point of one byte. -/
theorem encodePoint_one (h : n < 0x80) :
    encodePoint (CodePoint.ofNat n) = [UInt8.ofNat n] := by
  simp only [encodePoint, CodePoint.val_ofNat (show n < 0x110000 by omega)]
  rw [if_pos h]

/-- One of two bytes. -/
theorem encodePoint_two (h : 0x80 ≤ n) (h' : n < 0x800) :
    encodePoint (CodePoint.ofNat n) =
      [UInt8.ofNat (0xC0 + n / 0x40), UInt8.ofNat (0x80 + n % 0x40)] := by
  simp only [encodePoint, CodePoint.val_ofNat (show n < 0x110000 by omega)]
  rw [if_neg (by omega), if_pos h']

/-- One of three. -/
theorem encodePoint_three (h : 0x800 ≤ n) (h' : n < 0x10000) :
    encodePoint (CodePoint.ofNat n) =
      [UInt8.ofNat (0xE0 + n / 0x40 / 0x40), UInt8.ofNat (0x80 + n / 0x40 % 0x40),
        UInt8.ofNat (0x80 + n % 0x40)] := by
  simp only [encodePoint, CodePoint.val_ofNat (show n < 0x110000 by omega)]
  rw [if_neg (by omega), if_neg (by omega), if_pos h', Nat.div_div_eq_div_mul]

/-- One of four. -/
theorem encodePoint_four (h : 0x10000 ≤ n) (h' : n < 0x110000) :
    encodePoint (CodePoint.ofNat n) =
      [UInt8.ofNat (0xF0 + n / 0x40 / 0x40 / 0x40), UInt8.ofNat (0x80 + n / 0x40 / 0x40 % 0x40),
        UInt8.ofNat (0x80 + n / 0x40 % 0x40), UInt8.ofNat (0x80 + n % 0x40)] := by
  simp only [encodePoint, CodePoint.val_ofNat h', Nat.div_div_eq_div_mul, Nat.reduceMul]
  rw [if_neg (by omega), if_neg (by omega), if_neg (by omega)]

/-! ## Trail bytes -/

/-- The payload after one more byte. -/
def extend (payload : Nat) (b : UInt8) : Nat := payload * 0x40 + (b.toNat - 0x80)

/-- A trail byte is the one of the six bits that it adds. -/
theorem extend_of_trail (h : 0x80 ≤ b.toNat) (h' : b.toNat ≤ 0xBF) (payload : Nat) :
    payload * 0x40 ≤ extend payload b ∧ extend payload b < payload * 0x40 + 0x40 ∧
      UInt8.ofNat (0x80 + extend payload b % 0x40) = b ∧ extend payload b / 0x40 = payload := by
  unfold extend
  refine ⟨Nat.le_add_right .., by omega, ?_, by omega⟩
  rw [← UInt8.toNat_inj, toNat_trail]
  omega

/-- The trailing bytes by their range. -/
theorem isTrail_iff : isTrail b = true ↔ 0x80 ≤ b.toNat ∧ b.toNat ≤ 0xBF := by
  simp only [isTrail, Bool.and_eq_true, decide_eq_true_eq, UInt8.le_iff_toNat_le,
    UInt8.reduceToNat]

/-- A trailing byte is taken, and any other one is a fault that is left to be read. -/
theorem trail_cons (more payload width : Nat) (b : UInt8) (bytes : Bytes) :
    trail (more + 1) payload width (b :: bytes) =
      if isTrail b then trail more (extend payload b) (width + 1) bytes
      else .fault .invalidContinuation width (b :: bytes) := by
  rw [trail]
  unfold extend
  rfl

/-- Some trail bytes are read onto the payload, and no more. -/
theorem trail_eq_point {more payload width : Nat}
    (h : trail more payload width bytes = .point c rest) :
    ∃ trails, trails.length = more ∧ bytes = trails ++ rest ∧ (∀ b ∈ trails, isTrail b = true) ∧
      c = CodePoint.ofNat (trails.foldl extend payload) := by
  induction more generalizing payload width bytes with
  | zero =>
    rw [trail] at h
    obtain ⟨rfl, rfl⟩ := Step.point.inj h
    exact ⟨[], rfl, rfl, List.forall_mem_nil _, rfl⟩
  | succ more ih =>
    cases bytes with
    | nil => cases h
    | cons b bytes =>
      rw [trail_cons] at h
      split at h
      · next hb =>
        obtain ⟨trails, hlen, hbytes, htrails, hc⟩ := ih h
        refine ⟨b :: trails, by rw [List.length_cons, hlen], ?_, ?_, ?_⟩
        · rw [hbytes, List.cons_append]
        · exact List.forall_mem_cons.2 ⟨hb, htrails⟩
        · rw [hc, List.foldl_cons]
      · cases h

/-! ## Announcements -/

/-- What the first two bytes of a sequence amount to, and how many are to follow. -/
theorem lead_cases {lead : Lead} (hlead : lead? b = some lead) (hlow : lead.low ≤ second)
    (hhigh : second ≤ lead.high) :
    (0x80 ≤ second.toNat ∧ second.toNat ≤ 0xBF) ∧
      (lead.more = 0 ∧ b.toNat = 0xC0 + lead.payload ∧
          0x80 ≤ extend lead.payload second ∧ extend lead.payload second < 0x800 ∨
        lead.more = 1 ∧ b.toNat = 0xE0 + lead.payload ∧
          0x20 ≤ extend lead.payload second ∧ extend lead.payload second < 0x400 ∨
        lead.more = 2 ∧ b.toNat = 0xF0 + lead.payload ∧
          0x10 ≤ extend lead.payload second ∧ extend lead.payload second < 0x110) := by
  simp only [lead?, Bool.and_eq_true, decide_eq_true_eq, UInt8.le_iff_toNat_le,
    ← UInt8.toNat_inj, UInt8.reduceToNat] at hlead hlow hhigh
  unfold extend
  -- one case for each announcement, with its own range of second bytes
  split_ifs at hlead <;> cases Option.some.inj hlead <;>
    dsimp only at hlow hhigh ⊢ <;> simp only [UInt8.reduceToNat] at hlow hhigh <;> omega

/-- A first byte, a second one that it announces and as many trail bytes as it
announces are the bytes of a code point. -/
theorem encodePoint_of_lead {lead : Lead} (hlead : lead? b = some lead) (hlow : lead.low ≤ second)
    (hhigh : second ≤ lead.high) {trails : Bytes} (hlen : trails.length = lead.more)
    (htrails : ∀ t ∈ trails, isTrail t = true) :
    encodePoint (CodePoint.ofNat ((second :: trails).foldl extend lead.payload)) =
      b :: second :: trails := by
  obtain ⟨hrange, hcases⟩ := lead_cases hlead hlow hhigh
  obtain ⟨-, -, hsecond, hpayload⟩ := extend_of_trail hrange.1 hrange.2 lead.payload
  have hfirst {base : Nat} (hb : b.toNat = base + lead.payload) :
      UInt8.ofNat (base + lead.payload) = b := by rw [← hb, UInt8.ofNat_toNat]
  rw [List.foldl_cons]
  generalize extend lead.payload second = n at hcases hsecond hpayload ⊢
  rcases hcases with ⟨hmore, hb, hmin, hmax⟩ | ⟨hmore, hb, hmin, hmax⟩ | ⟨hmore, hb, hmin, hmax⟩
  · obtain rfl := List.length_eq_zero_iff.1 (hlen.trans hmore)
    rw [List.foldl_nil, encodePoint_two hmin hmax, hsecond, hpayload, hfirst hb]
  · obtain ⟨t, rfl⟩ := List.length_eq_one_iff.1 (hlen.trans hmore)
    obtain ⟨hlow, hhigh⟩ := isTrail_iff.1 (htrails t (by simp))
    obtain ⟨hge, hlt, ht, hn⟩ := extend_of_trail hlow hhigh n
    rw [List.foldl_cons, List.foldl_nil, encodePoint_three (by omega) (by omega), ht, hn, hsecond,
      hpayload, hfirst hb]
  · obtain ⟨t, u, rfl⟩ := List.length_eq_two.1 (hlen.trans hmore)
    obtain ⟨hlow, hhigh⟩ := isTrail_iff.1 (htrails t (by simp))
    obtain ⟨hge, hlt, ht, hn⟩ := extend_of_trail hlow hhigh n
    obtain ⟨hlow', hhigh'⟩ := isTrail_iff.1 (htrails u (by simp))
    obtain ⟨hge', hlt', hu, hn'⟩ := extend_of_trail hlow' hhigh' (extend n t)
    rw [List.foldl_cons, List.foldl_cons, List.foldl_nil, encodePoint_four (by omega) (by omega),
      hu, hn', ht, hn, hsecond, hpayload, hfirst hb]

/-! ## Steps -/

/-- A sequence is made of the bytes of its code point. -/
theorem encodePoint_of_step (h : step b bytes = .point c rest) :
    encodePoint c ++ rest = b :: bytes := by
  rw [step] at h
  split at h
  · next hb =>
    obtain ⟨rfl, rfl⟩ := Step.point.inj h
    rw [UInt8.lt_iff_toNat_lt] at hb
    rw [encodePoint_one hb, UInt8.ofNat_toNat, List.singleton_append]
  split at h
  · cases h
  next lead hlead =>
  cases bytes with
  | nil => cases h
  | cons second bytes =>
    dsimp only at h
    split at h
    · next hin =>
      rw [Bool.and_eq_true, decide_eq_true_eq, decide_eq_true_eq] at hin
      have htrail : trail lead.more (extend lead.payload second) 2 bytes = .point c rest := by
        unfold extend
        exact h
      obtain ⟨trails, hlen, hbytes, htrails, hc⟩ := trail_eq_point htrail
      rw [hc, ← List.foldl_cons, encodePoint_of_lead hlead hin.1 hin.2 hlen htrails, hbytes,
        List.cons_append, List.cons_append]
    · cases h

/-- So is the sequence of a surrogate, which a lenient reading accepts. -/
theorem encodePoint_of_stepWith {surrogates : Bool}
    (h : stepWith surrogates b bytes = .point c rest) : encodePoint c ++ rest = b :: bytes := by
  unfold stepWith at h
  split at h
  · next second third rest' =>
    split at h
    · next hin =>
      obtain ⟨rfl, rfl⟩ := Step.point.inj h
      rw [Bool.and_eq_true, Bool.and_eq_true, decide_eq_true_eq, decide_eq_true_eq, isTrail_iff,
        UInt8.le_iff_toNat_le, UInt8.le_iff_toNat_le] at hin
      simp only [UInt8.reduceToNat] at hin
      have hvalue : 0xD000 + (second.toNat - 0x80) * 0x40 + (third.toNat - 0x80) =
          extend (extend 0xD second) third := by
        unfold extend
        omega
      obtain ⟨hge, hlt, hsecond, hpayload⟩ := extend_of_trail (b := second) (by omega) hin.1.2 0xD
      obtain ⟨hge', hlt', hthird, hn⟩ :=
        extend_of_trail hin.2.1 hin.2.2 (extend 0xD second)
      rw [hvalue, encodePoint_three (by omega) (by omega), hthird, hn, hsecond, hpayload]
      rfl
    · exact encodePoint_of_step h
  · exact encodePoint_of_step h

/-! ## Texts -/

/-- What is read is encoded as the bytes it was read of: by induction on the decoder, with what
was read before as the invariant. -/
theorem encode_of_decodeFrom {surrogates : Bool} {offset : Nat} {done t : Text}
    (h : decodeFrom surrogates offset done bytes = .ok t) :
    ∃ u, t = done.reverse ++ u ∧ encode u = bytes := by
  fun_induction decodeFrom surrogates offset done bytes with
  | case1 offset done =>
    obtain rfl := Except.ok.inj h
    exact ⟨[], (List.append_nil _).symm, rfl⟩
  | case2 offset done b bytes c rest hstep ih =>
    obtain ⟨u, rfl, rfl⟩ := ih h
    refine ⟨c :: u, by simp, ?_⟩
    rw [encode_cons, encodePoint_of_stepWith hstep]
  | case3 => cases h

/-- **Bytes that are read as a text are the bytes of the text.** -/
theorem encode_of_decodePassing {t : Text} (h : decodePassing bytes = .ok t) :
    encode t = bytes := by
  obtain ⟨u, rfl, hu⟩ := encode_of_decodeFrom h
  exact hu

end Utf8
end Hotspot
