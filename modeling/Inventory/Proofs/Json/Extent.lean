import Inventory.Proofs.Json.Machine
/-!
# The extent of a value in a stream

`valueLength` measures the first value of a stream: it runs the machine from the start and
stops at the first byte the value cannot take. What it measures is blanks followed by exactly
one value (`valueLength_sound`) that the next byte, if any, ends (`valueLength_next`); and a
value followed by nothing, or by a byte that ends it, is measured whole (`valueLength_of_done`):
a number is not cut short, and a container is not read past its closing bracket.
-/

set_option autoImplicit false

namespace Inventory.Json

/-- The bytes that end a value in a stream: a blank, a comma, a colon or a closing bracket. -/
def endsValue (c : UInt8) : Bool :=
  isBlank c || c == 0x2C || c == 0x3A || c == 0x5D || c == 0x7D

namespace Scanner

variable {s : Scanner} {c : UInt8}

/-- After a whole value, a byte that ends values is done. -/
theorem step_ended_endsValue (he : Ended s) (hc : endsValue c = true) : (s.step c).2 = .done := by
  rcases he.phase with ⟨hp, -⟩ | hcl
  · unfold step; simp only [hp]; exact atEndTop_snd s c
  · have hnum : isDigit c = false ∧ c ≠ 0x2E ∧ c ≠ 0x65 ∧ c ≠ 0x45 := by
      simp only [endsValue, isBlank, Bool.or_eq_true, beq_iff_eq] at hc
      rcases hc with ((((((rfl | rfl) | rfl) | rfl) | rfl) | rfl) | rfl) | rfl <;> decide
    rw [step_of_closes hcl hnum.1 hnum.2.1 hnum.2.2.1 hnum.2.2.2]
    exact atEndValue_nil s c he.stack

end Scanner

open Scanner

/-! ## 1. What is measured is one value -/

/-- **Soundness of the measure**: the bytes counted from a good state run without a refusal
and end holding a whole value, which the next byte, if any, ends. -/
theorem scanLength_sound {all : Bytes} :
    ∀ {bs : Bytes} {s : Scanner} {n m : Nat}, Good s → scanLength all s n bs = .ok m →
      n ≤ m ∧ Inside s (bs.take (m - n)) ∧ Ended (s.feed (bs.take (m - n))) ∧
        ∀ b ∈ (bs.drop (m - n)).head?, ((s.feed (bs.take (m - n))).step b).2 = .done
  | [], s, n, m, hg, h => by
    unfold scanLength at h
    split at h
    · cases h; exact ⟨Nat.le_refl _, by simp, by simpa using step_done hg ‹_›, by simp⟩
    · split at h <;> cases h
  | c :: rest, s, n, m, hg, h => by
    -- a byte that neither stops nor ends the value: the measure goes on from the next state
    have more : (s.step c).2.stops = false → scanLength all (s.step c).1 (n + 1) rest = .ok m →
        n ≤ m ∧ Inside s ((c :: rest).take (m - n)) ∧
          Ended (s.feed ((c :: rest).take (m - n))) ∧
          ∀ b ∈ ((c :: rest).drop (m - n)).head?,
            ((s.feed ((c :: rest).take (m - n))).step b).2 = .done := by
      intro h1 hrest
      obtain ⟨hle, hin, hend, hnext⟩ := scanLength_sound (step_good hg h1) hrest
      have hm : m - n = (m - (n + 1)) + 1 := by omega
      rw [hm, List.take_succ_cons, List.drop_succ_cons]
      exact ⟨by omega, ⟨h1, hin⟩, hend, hnext⟩
    unfold scanLength at h
    rcases hst : s.step c with ⟨s', code⟩
    rw [hst] at h more
    cases code
    case done =>
      cases h
      simp only [Nat.sub_self, List.take_zero, List.drop_zero, feed_nil]
      refine ⟨Nat.le_refl _, trivial, step_done hg (by rw [hst]), fun b hb => ?_⟩
      obtain rfl : c = b := by simpa using hb
      rw [hst]
    case error => cases h
    case endObject | endArray =>
      simp only at h
      split at h
      · cases h
        have hs' : s'.stack = [] := atEndValue_done ‹_›
        have hclose := step_close_top (c := c) hg (by simp [hst]) (by rw [hst]; exact hs')
        rw [hst] at hclose
        simp only [Nat.add_sub_cancel_left, List.take_succ_cons, List.take_zero, List.drop_succ_cons,
          List.drop_zero, feed_cons, hst, feed_nil, inside_cons, inside_nil, and_true]
        -- the bracket closed the top-level value, which every next byte ends
        refine ⟨by omega, rfl, hclose.2, fun b _ => ?_⟩
        unfold step
        rw [hclose.1]
        exact atEndTop_snd _ b
      · exact more rfl h
    all_goals exact more rfl h

/-- A run from the start that ends holding a whole value is blanks followed by one value. -/
theorem isValue_of_run {p : Bytes} (hin : Inside {} p) (he : Ended (({} : Scanner).feed p)) :
    ∃ ws v, p = ws ++ v ∧ (∀ c ∈ ws, isBlank c = true) ∧ IsValue v := by
  have hws : ∀ c ∈ p.takeWhile isBlank, isBlank c = true := fun c hc =>
    List.all_eq_true.mp List.all_takeWhile c hc
  obtain ⟨hin0, hfeed0⟩ := feed_blanks (s := {}) rfl hws
  have hp : p = p.takeWhile isBlank ++ p.dropWhile isBlank := List.takeWhile_append_dropWhile.symm
  refine ⟨_, _, hp, hws, ?_, ?_, ?_⟩
  · rw [hp, inside_append, hfeed0] at hin; exact hin.2
  · rw [hp, feed_append, hfeed0] at he; exact he
  · intro c hc
    have := List.head?_dropWhile_not isBlank p
    rw [hc] at this
    exact this

/-- **What `valueLength` measures is blanks followed by exactly one value.** -/
theorem valueLength_sound {bs : Bytes} {n : Nat} (h : valueLength bs = .ok n) :
    ∃ ws v, bs.take n = ws ++ v ∧ (∀ c ∈ ws, isBlank c = true) ∧ IsValue v := by
  obtain ⟨-, hin, hend, -⟩ := scanLength_sound good_start h
  exact isValue_of_run hin hend

/-- **Where the measure stops**: the byte after the bytes measured, if any, ends the value. -/
theorem valueLength_next {bs : Bytes} {n : Nat} (h : valueLength bs = .ok n) :
    ∀ b ∈ (bs.drop n).head?, ((({} : Scanner).feed (bs.take n)).step b).2 = .done := by
  simpa using (scanLength_sound good_start h).2.2.2

/-! ## 2. A value is measured whole -/

/-- After a whole value, the measure stops where the value does. -/
theorem scanLength_ended {all rest : Bytes} {s : Scanner} {n : Nat} (he : Ended s)
    (hrest : ∀ c ∈ rest.head?, (s.step c).2 = .done) : scanLength all s n rest = .ok n := by
  match rest, hrest with
  | [], _ =>
    unfold scanLength
    rw [step_ended_endsValue he rfl]
  | d :: more, hrest =>
    unfold scanLength
    rcases hst : s.step d with ⟨s', code⟩
    have hd := hrest d rfl
    rw [hst] at hd
    subst hd
    rfl

/-- Blanks before a value are counted and skipped. -/
theorem scanLength_blanks {all rest : Bytes} {n : Nat} {ws : Bytes}
    (hws : ∀ c ∈ ws, isBlank c = true) :
    scanLength all {} n (ws ++ rest) = scanLength all {} (n + ws.length) rest := by
  induction ws generalizing n with
  | nil => rfl
  | cons c ws ih =>
    have hstep := step_blank_waits (s := {}) (hws c (by simp)) rfl
    simp only [List.cons_append, scanLength, hstep, List.length_cons]
    rw [ih fun d hd => hws d (by simp [hd]), show n + (ws.length + 1) = n + 1 + ws.length by omega]

theorem scanLength_complete {all rest : Bytes} :
    ∀ {v : Bytes} {s : Scanner} {n : Nat}, Good s → Inside s v → v ≠ [] → Ended (s.feed v) →
      (∀ c ∈ rest.head?, ((s.feed v).step c).2 = .done) →
        scanLength all s n (v ++ rest) = .ok (n + v.length)
  | [], _, _, _, _, hv, _, _ => absurd rfl hv
  | c :: v, s, n, hg, hin, _, he, hrest => by
    obtain ⟨h1, h2⟩ := hin
    -- once the byte is taken, the rest of the value is measured from the next state
    have next : scanLength all (s.step c).1 (n + 1) (v ++ rest) = .ok (n + (c :: v).length) := by
      rw [List.length_cons, ← Nat.add_assoc]
      match v, h2, he with
      | [], _, he => exact scanLength_ended he hrest
      | d :: v', h2, he =>
        have := @scanLength_complete all rest (d :: v') (s.step c).1 (n + 1) (step_good hg h1) h2
          (by simp) he hrest
        simpa [Nat.add_assoc, Nat.add_comm 1] using this
    rw [List.cons_append]
    unfold scanLength
    rcases hst : s.step c with ⟨s', code⟩
    rw [hst] at h1 h2 next
    cases code
    case done => cases h1
    case error => cases h1
    case endObject | endArray =>
      simp only
      split
      · -- the bracket closed the top-level value: it must be the last byte of the value
        have hs' : s'.stack = [] := atEndValue_done ‹_›
        match v, h2 with
        | [], _ => rfl
        | d :: v', h2 =>
          have hclose := step_close_top (c := c) hg (by simp [hst]) (by rw [hst]; exact hs')
          rw [hst] at hclose
          have hdone : (s'.step d).2 = .done := by
            unfold step; rw [hclose.1]; exact atEndTop_snd s' d
          rw [inside_cons, hdone] at h2
          cases h2.1
      · exact next
    all_goals exact next

/-- **A value is measured whole**: after blanks, a value followed by nothing or by a byte that
ends it is measured up to its last byte. -/
theorem valueLength_of_done {ws v rest : Bytes} (hws : ∀ c ∈ ws, isBlank c = true)
    (hv : IsValue v) (hrest : ∀ c ∈ rest.head?, ((({} : Scanner).feed v).step c).2 = .done) :
    valueLength (ws ++ v ++ rest) = .ok (ws.length + v.length) := by
  unfold valueLength
  rw [List.append_assoc, scanLength_blanks hws, Nat.zero_add]
  exact scanLength_complete good_start hv.inside hv.ne_nil hv.ended hrest

/-- A value followed by nothing or by a byte that ends values is measured up to its last byte:
a number is not cut short, and a container is not read past its closing bracket. -/
theorem valueLength_complete {ws v rest : Bytes} (hws : ∀ c ∈ ws, isBlank c = true)
    (hv : IsValue v) (hrest : ∀ c ∈ rest.head?, endsValue c = true) :
    valueLength (ws ++ v ++ rest) = .ok (ws.length + v.length) :=
  valueLength_of_done hws hv fun c hc => step_ended_endsValue hv.ended (hrest c hc)

end Inventory.Json
