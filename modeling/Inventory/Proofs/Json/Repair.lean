import Inventory.Proofs.Json.Strings
import Inventory.Proofs.Text.Utf8
/-!
# Repaired values

`Utf8.repair` replaces each byte that starts no well-formed UTF-8 sequence by the three bytes of
`U+FFFD`. Applied to JSON text it changes nothing the machine sees. A byte from `0x80` up is taken
only inside a string literal, where every such byte is read alike and changes nothing
(`Scanner.run_high`); repair leaves every ASCII byte where it is and turns each run of bytes
from `0x80` up into another such run (`Utf8.repair_append_ascii`, `Utf8.repair_high`).

So the run over a repaired text is the run over the text (`Scanner.run_repair`): a repaired value
is a value nested as deep (`isValue_repair`, `peak_repair`), and its compact layout is the
repaired compact layout (`keep_repair`).
-/

set_option autoImplicit false

namespace Inventory

open Json

/-- Every byte string is a run of bytes from `0x80` up, then the rest from the first ASCII
byte. -/
theorem exists_high_split (v : Bytes) :
    ∃ h rest, v = h ++ rest ∧ (∀ b ∈ h, 0x80 ≤ b) ∧ ∀ a ∈ rest.head?, a < 0x80 := by
  induction v with
  | nil => exact ⟨[], [], rfl, by simp, by simp⟩
  | cons b v ih =>
    by_cases hb : 0x80 ≤ b
    · obtain ⟨h, rest, rfl, hh, hr⟩ := ih
      refine ⟨b :: h, rest, rfl, ?_, hr⟩
      intro d hd
      rcases List.mem_cons.mp hd with rfl | hd
      · exact hb
      · exact hh d hd
    · refine ⟨[], b :: v, rfl, by simp, ?_⟩
      intro a ha
      obtain rfl : b = a := by simpa using ha
      simpa using hb

namespace Json.Scanner

/-- Inside a string literal a byte from `0x80` up changes nothing. -/
theorem step_inString_high {s : Scanner} (hp : s.phase = .inString) {c : UInt8} (h : 0x80 ≤ c) :
    s.step c = (s, .continue) := by
  have h1 : (c == 0x22) = false := beq_of_high h (by decide)
  have h2 : (c == 0x5C) = false := beq_of_high h (by decide)
  have h3 : ¬ c < 0x20 := by grind
  unfold step
  rw [hp]
  simp only [h1, h2, h3, Bool.false_eq_true, ↓reduceIte]

/-- **A run of bytes from `0x80` up inside a string literal** is taken whole, kept whole, and
changes nothing. -/
theorem run_high {s : Scanner} (hp : s.phase = .inString) {h : Bytes} (hh : ∀ b ∈ h, 0x80 ≤ b) :
    Inside s h ∧ s.feed h = s ∧ s.keep h = h ∧ s.peak h = s.depth := by
  induction h with
  | nil => exact ⟨trivial, rfl, rfl, rfl⟩
  | cons b h ih =>
    have hstep := step_inString_high hp (hh b (by simp))
    obtain ⟨i1, i2, i3, i4⟩ := ih fun d hd => hh d (by simp [hd])
    refine ⟨?_, ?_, ?_, ?_⟩
    · rw [inside_cons, hstep]; exact ⟨rfl, i1⟩
    · rw [feed_cons, hstep, i2]
    · simp only [keep, hstep, Code.kept, ↓reduceIte, i3]
    · simp only [peak, hstep, i4, Nat.max_self]

/-- **The machine reads a repaired text as the text**: every byte is taken alike, the final
state is the same, the compact layout is the repaired one, and the depth reached is the same. -/
theorem run_repair {v : Bytes} : ∀ {s : Scanner}, Good s → Inside s v →
    Inside s (Utf8.repair v) ∧ s.feed (Utf8.repair v) = s.feed v ∧
      s.keep (Utf8.repair v) = Utf8.repair (s.keep v) ∧ s.peak (Utf8.repair v) = s.peak v := by
  induction hn : v.length using Nat.strongRecOn generalizing v with
  | _ n ih =>
    intro s hg hin
    obtain ⟨h, rest, rfl, hh, hr⟩ := exists_high_split v
    cases h with
    | nil =>
      cases rest with
      | nil => simp
      | cons a rest =>
        -- an ASCII byte stays where it is and is read as before
        have ha : a < 0x80 := hr a rfl
        obtain ⟨h1, h2⟩ := hin
        obtain ⟨i1, i2, i3, i4⟩ := ih rest.length (by simp [← hn]) rfl (step_good hg h1) h2
        rw [List.nil_append, Utf8.repair_ascii_cons ha]
        refine ⟨⟨h1, i1⟩, by rw [feed_cons, feed_cons, i2], ?_, ?_⟩
        · simp only [keep, i3]
          split
          · rw [Utf8.repair_ascii_cons ha]
          · rfl
        · simp only [peak, i4]
    | cons b h =>
      -- a run from `0x80` up stands inside a string, where its repair is read alike
      have hb : 0x80 ≤ b := hh b (by simp)
      obtain ⟨hp, -⟩ := step_high hg hb (by have := hin.1; simpa using this)
      obtain ⟨r1, r2, r3, r4⟩ := run_high hp hh
      obtain ⟨q1, q2, q3, q4⟩ := run_high hp (Utf8.repair_high hh)
      rw [inside_append, r2] at hin
      cases rest with
      | nil =>
        rw [List.append_nil]
        exact ⟨q1, by rw [q2, r2], by rw [q3, r3], by rw [q4, r4]⟩
      | cons a rest =>
        have ha : a < 0x80 := hr a rfl
        obtain ⟨i1, i2, i3, i4⟩ := ih (a :: rest).length
          (by rw [← hn]; simp only [List.length_cons, List.length_append]; omega) rfl hg hin.2
        rw [Utf8.repair_ascii_cons ha] at i1 i2 i3 i4
        -- the ASCII byte after the run is still inside the string, so it is kept
        have hkept : ((s.step a).2).kept = true := by
          obtain ⟨hc, -⟩ := step_inStr (by rw [hp]; rfl) hin.2.1
          rw [hc]; rfl
        have hka : s.keep (a :: rest) = a :: (s.step a).1.keep rest := by
          simp only [keep, hkept, ↓reduceIte]
        rw [Utf8.repair_append_ascii ha]
        refine ⟨?_, ?_, ?_, ?_⟩
        · rw [inside_append, q2]; exact ⟨q1, i1⟩
        · rw [feed_append, feed_append, q2, r2, i2]
        · rw [keep_append, keep_append, q2, r2, q3, r3, i3, hka, Utf8.repair_append_ascii ha]
          rw [Utf8.repair_ascii_cons ha]
        · rw [peak_append, peak_append, q2, r2, q4, r4, i4]

end Json.Scanner

open Json.Scanner

/-- **A repaired value is a value.** -/
theorem isValue_repair {v : Bytes} (hv : IsValue v) : IsValue (Utf8.repair v) := by
  obtain ⟨h1, h2, -, -⟩ := run_repair good_start hv.inside
  refine ⟨h1, h2 ▸ hv.ended, ?_⟩
  -- a value starts with an ASCII byte, which repair keeps in front
  obtain ⟨c, r, rfl⟩ := List.exists_cons_of_ne_nil hv.ne_nil
  have hlow : c < 0x80 := by
    by_cases hhigh : c < 0x80
    · exact hhigh
    · have h1 := hv.inside.1
      rw [show ({} : Scanner).step c = ({} : Scanner).atBeginValue c from rfl,
        atBeginValue_stops_of_high (by simpa using hhigh)] at h1
      cases h1
  rw [Utf8.repair_ascii_cons hlow]
  exact hv.lead

/-- **Repair commutes with the compact layout.** -/
theorem keep_repair {v : Bytes} (hv : Scanner.Inside {} v) :
    keep {} (Utf8.repair v) = Utf8.repair (keep {} v) :=
  (run_repair good_start hv).2.2.1

/-- **A repaired text nests as deep as the text.** -/
theorem peak_repair {v : Bytes} (hv : Scanner.Inside {} v) :
    Scanner.peak {} (Utf8.repair v) = Scanner.peak {} v :=
  (run_repair good_start hv).2.2.2

end Inventory
