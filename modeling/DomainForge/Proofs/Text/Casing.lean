import DomainForge.Text.Casing
import Mathlib.Data.List.Basic

/-!
# Laws of upper case

Upper case is reached in one step: a character of an upper-case form is its own upper-case form
(`upperChar_of_mem`). Seen from ASCII the mapping is simple, too. It leaves everything before the
small letters alone, and what it does change becomes a capital or leaves ASCII altogether
(`mem_upperChar_cases`), so it makes no digit and no punctuation.

The mapping is a table, so these are facts about a table. A run of code points is treated as a
whole: the images of its ends and a residue tell where it leads (`CodeRun.avoids`), and a character
that expands counts as runs of a single code point.
-/

namespace DomainForge.Text

/-! ## Runs -/

namespace CodeRun

variable {run other : CodeRun} {code : Nat}

/-- A run of one code point, which stays where it is. -/
def single (code : Nat) : CodeRun :=
  ⟨code, code, 1, 0⟩

theorem covers_iff : run.covers code = true ↔
    run.first ≤ code ∧ code ≤ run.last ∧ (code - run.first) % run.step = 0 := by
  simp only [covers, Bool.and_eq_true, decide_eq_true_eq, beq_iff_eq, and_assoc]

theorem covers_single {found : Nat} : (single code).covers found = true ↔ found = code := by
  rw [covers_iff]
  simp only [single]
  omega

theorem image_single : (single code).image code = code := by
  simp [single, image]

/-- A run leads to between the images of its ends. -/
theorem image_bounds (h : run.covers code = true) :
    run.image run.first ≤ run.image code ∧ run.image code ≤ run.image run.last := by
  obtain ⟨hfirst, hlast, -⟩ := covers_iff.1 h
  unfold image
  omega

/-- Whether a run is seen to lead to no code point of another: all its images lie outside the
other's range, or they share a residue that the other does not have. -/
def avoids (run other : CodeRun) : Bool :=
  Nat.blt (run.image run.last) other.first || Nat.blt other.last (run.image run.first) ||
    (0 ≤ run.first + run.shift && (run.first == run.last || run.step % other.step == 0) &&
      run.image run.first % other.step != other.first % other.step)

/-- If the images of a run avoid another run, no image is covered by it. -/
theorem covers_image_of_avoids (havoids : run.avoids other = true) (h : run.covers code = true) :
    other.covers (run.image code) = false := by
  have hbounds := image_bounds h
  rw [Bool.eq_false_iff, ne_eq, covers_iff]
  rintro ⟨hlow, hhigh, hother⟩
  simp only [avoids, Bool.or_eq_true, Bool.and_eq_true, decide_eq_true_eq, beq_iff_eq,
    bne_iff_ne, Nat.blt_eq] at havoids
  obtain ⟨⟨hpositive, hstep⟩, hresidue⟩ := havoids.resolve_left (by omega)
  -- The images are as far from each other as the code points are.
  obtain ⟨hfirst, hlast, hcode⟩ := covers_iff.1 h
  have himage : run.image code = run.image run.first + (code - run.first) := by
    unfold image
    omega
  have hdistance : other.step ∣ code - run.first := by
    rcases hstep with hends | hstep
    · exact ⟨0, by omega⟩
    · exact Nat.dvd_trans (Nat.dvd_of_mod_eq_zero hstep) (Nat.dvd_of_mod_eq_zero hcode)
  obtain ⟨passed, hpassed⟩ := hdistance
  obtain ⟨count, hcount⟩ := Nat.dvd_of_mod_eq_zero hother
  apply hresidue
  calc run.image run.first % other.step
      = run.image code % other.step := by rw [himage, hpassed, Nat.add_mul_mod_self_left]
    _ = (other.first + other.step * count) % other.step := by
      rw [← hcount, Nat.add_sub_cancel' hlow]
    _ = other.first % other.step := Nat.add_mul_mod_self_left ..

end CodeRun

/-! ## Mappings -/

namespace Casing

/-- What a mapping lists. -/
def sources (expansions : List (Nat × List Nat)) (runs : List CodeRun) : List CodeRun :=
  runs ++ expansions.map fun entry => .single entry.1

/-- What leads to the images under a mapping. -/
def targets (expansions : List (Nat × List Nat)) (runs : List CodeRun) : List CodeRun :=
  runs ++ expansions.flatMap fun entry => entry.2.map .single

/-- Whether a mapping lists a code point. -/
def lists (expansions : List (Nat × List Nat)) (runs : List CodeRun) (code : Nat) : Bool :=
  (sources expansions runs).any (·.covers code)

variable {expansions : List (Nat × List Nat)} {runs : List CodeRun} {c x : Char}

theorem lists_eq_false_iff {code : Nat} : lists expansions runs code = false ↔
    (∀ entry ∈ expansions, entry.1 ≠ code) ∧ ∀ run ∈ runs, run.covers code = false := by
  have hsingle (entry : Nat × List Nat) :
      (CodeRun.single entry.1).covers code = false ↔ entry.1 ≠ code := by
    rw [Bool.eq_false_iff, ne_eq, CodeRun.covers_single, ne_comm]
  simp [lists, sources, hsingle, and_comm]

/-- A character that is not listed is its own image. -/
theorem image_eq_singleton (h : lists expansions runs c.toNat = false) :
    image expansions runs c = [c] := by
  obtain ⟨hexpansions, hruns⟩ := lists_eq_false_iff.1 h
  have hexpansion : expansions.find? (·.1 == c.toNat) = none :=
    List.find?_eq_none.2 fun entry hentry => by simpa using hexpansions entry hentry
  have hrun : runs.find? (·.covers c.toNat) = none :=
    List.find?_eq_none.2 fun run hrun => by simp [hruns run hrun]
  simp only [image, hexpansion, imageIn, hrun, Option.map_none]

/-- An image is the character itself if that is not listed, else some target leads to it. -/
theorem mem_image (h : x ∈ image expansions runs c) :
    (x = c ∧ lists expansions runs c.toNat = false) ∨
      ∃ run ∈ targets expansions runs, ∃ code, run.covers code = true ∧
        x = Char.ofNat (run.image code) := by
  cases hexpansion : expansions.find? (·.1 == c.toNat) with
  | some entry =>
    simp only [image, hexpansion] at h
    obtain ⟨code, hcode, rfl⟩ := List.mem_map.1 h
    have hentry : entry ∈ expansions := List.mem_of_find?_eq_some hexpansion
    have htarget : .single code ∈ targets expansions runs := by
      refine List.mem_append_right _ (List.mem_flatMap.2 ⟨entry, hentry, ?_⟩)
      exact List.mem_map_of_mem hcode
    exact .inr ⟨.single code, htarget, code, CodeRun.covers_single.2 rfl,
      by rw [CodeRun.image_single]⟩
  | none =>
    cases hfound : runs.find? (·.covers c.toNat) with
    | some run =>
      simp only [image, hexpansion, imageIn, hfound, Option.map_some, List.mem_singleton] at h
      have hcovers : run.covers c.toNat = true := by simpa using List.find?_some hfound
      have hrun : run ∈ runs := List.mem_of_find?_eq_some hfound
      exact .inr ⟨run, List.mem_append_left _ hrun, c.toNat, hcovers, h⟩
    | none =>
      simp only [image, hexpansion, imageIn, hfound, Option.map_none, List.mem_singleton] at h
      refine .inl ⟨h, lists_eq_false_iff.2 ⟨fun entry hentry => ?_, fun run hrun => ?_⟩⟩
      · simpa using List.find?_eq_none.1 hexpansion entry hentry
      · simpa using List.find?_eq_none.1 hfound run hrun

theorem image_ne_nil (h : ∀ entry ∈ expansions, entry.2 ≠ []) : image expansions runs c ≠ [] := by
  unfold image
  split
  · rename_i hexpansion
    simpa using h _ (List.mem_of_find?_eq_some hexpansion)
  · split <;> simp

/-- Whether a mapping leads to nothing that it lists. -/
def isSettled (expansions : List (Nat × List Nat)) (runs : List CodeRun) : Bool :=
  (targets expansions runs).all fun run => (sources expansions runs).all run.avoids

/-- Whether the images under a mapping lie in ranges of code points. -/
def leadsInto (ranges : List (Nat × Nat)) (expansions : List (Nat × List Nat))
    (runs : List CodeRun) : Bool :=
  (targets expansions runs).all fun run => ranges.any fun range =>
    range.1 ≤ run.image run.first && run.image run.last ≤ range.2

theorem inRanges_image {ranges : List (Nat × Nat)} (h : leadsInto ranges expansions runs = true)
    {run : CodeRun} (hrun : run ∈ targets expansions runs) {code : Nat}
    (hcode : run.covers code = true) : inRanges ranges (run.image code) = true := by
  obtain ⟨range, hrange, hin⟩ := List.any_eq_true.1 (List.all_eq_true.1 h run hrun)
  have hbounds := CodeRun.image_bounds hcode
  refine List.any_eq_true.2 ⟨range, hrange, ?_⟩
  simp only [Bool.and_eq_true, decide_eq_true_eq] at hin ⊢
  omega

/-! ## Upper case -/

/-- No capital has a capital of its own. -/
theorem upper_isSettled : isSettled upperExpansions upperRuns = true := by
  decide +kernel

/-- The capital letters of ASCII, and all characters beyond ASCII. -/
def upperRanges : List (Nat × Nat) :=
  [(0x41, 0x5a), (0x80, 0xd7ff), (0xe000, 0x10ffff)]

theorem upper_leadsInto : leadsInto upperRanges upperExpansions upperRuns = true := by
  decide +kernel

/-- Every small letter of ASCII is listed, and nothing before them. -/
theorem upper_lists {code : Nat} (h : code ≤ 0x7a) :
    lists upperExpansions upperRuns code = true ↔ 0x61 ≤ code := by
  constructor
  · have hfirst : ((sources upperExpansions upperRuns).all (0x61 ≤ ·.first)) = true := by
      decide +kernel
    intro hlists
    obtain ⟨run, hrun, hcovers⟩ := List.any_eq_true.1 hlists
    have hrun : 0x61 ≤ run.first := by simpa using List.all_eq_true.1 hfirst run hrun
    exact Nat.le_trans hrun (CodeRun.covers_iff.1 hcovers).1
  · intro hcode
    have hletters : (⟨0x61, 0x7a, 1, -32⟩ : CodeRun) ∈ sources upperExpansions upperRuns :=
      List.mem_cons_self
    exact List.any_eq_true.2 ⟨_, hletters, CodeRun.covers_iff.2 ⟨hcode, h, Nat.mod_one _⟩⟩

end Casing

open Casing

variable {c x : Char}

/-- An upper-case form is made of unlisted characters and of characters in the ranges of upper
case. -/
theorem mem_upperChar (h : x ∈ upperChar c) :
    (x = c ∧ lists upperExpansions upperRuns c.toNat = false) ∨
      (inRanges upperRanges x.toNat = true ∧ lists upperExpansions upperRuns x.toNat = false) := by
  refine (mem_image h).imp_right ?_
  rintro ⟨run, hrun, code, hcode, rfl⟩
  have hin := inRanges_image upper_leadsInto hrun hcode
  have hvalid : (run.image code).isValidChar := by
    simp only [inRanges, upperRanges, List.any_cons, List.any_nil, Bool.or_eq_true,
      Bool.and_eq_true, decide_eq_true_eq, Bool.or_false] at hin
    unfold Nat.isValidChar
    omega
  have hcharacter : (Char.ofNat (run.image code)).toNat = run.image code := by
    rw [Char.ofNat, dif_pos hvalid]
    rfl
  rw [hcharacter]
  refine ⟨hin, List.any_eq_false.2 fun other hother => ?_⟩
  have havoids := List.all_eq_true.1 (List.all_eq_true.1 upper_isSettled run hrun) other hother
  simp [CodeRun.covers_image_of_avoids havoids hcode]

/-- A character of an upper-case form is its own upper-case form. -/
theorem upperChar_of_mem (h : x ∈ upperChar c) : upperChar x = [x] := by
  rcases mem_upperChar h with ⟨rfl, hlists⟩ | ⟨-, hlists⟩ <;> exact image_eq_singleton hlists

theorem upperChar_ne_nil (c : Char) : upperChar c ≠ [] := by
  have hcodes : (upperExpansions.all fun entry => !entry.2.isEmpty) = true := by decide +kernel
  refine image_ne_nil fun entry hentry => ?_
  simpa using List.all_eq_true.1 hcodes entry hentry

/-- What stands before the small letters is its own upper-case form. -/
theorem upperChar_eq_singleton (h : c.toNat < 0x61) : upperChar c = [c] := by
  refine image_eq_singleton (Bool.eq_false_iff.2 fun hlists => ?_)
  have := (upper_lists (by omega)).1 hlists
  omega

/-- A character of an upper-case form is no small letter of ASCII, and if it is not the character
it comes from it is a capital or beyond ASCII. -/
theorem mem_upperChar_cases (h : x ∈ upperChar c) :
    (x = c ∧ (x.toNat < 0x61 ∨ 0x7a < x.toNat)) ∨ (0x41 ≤ x.toNat ∧ x.toNat ≤ 0x5a) ∨
      0x80 ≤ x.toNat := by
  rcases mem_upperChar h with ⟨rfl, hlists⟩ | ⟨hin, -⟩
  · refine .inl ⟨rfl, ?_⟩
    by_contra hsmall
    rw [(upper_lists (by omega)).2 (by omega)] at hlists
    exact Bool.noConfusion hlists
  · simp only [inRanges, upperRanges, List.any_cons, List.any_nil, Bool.or_eq_true,
      Bool.and_eq_true, decide_eq_true_eq, Bool.or_false] at hin
    omega

end DomainForge.Text
