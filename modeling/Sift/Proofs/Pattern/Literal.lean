import Sift.Pattern.Expression
import Sift.Proofs.Recorded

/-!
# Literals of patterns

A pattern is written as its source between slashes, with flags after the last one. The flags hold no
slash, so a text is taken apart in one way (`Expression.parts?_eq_some_iff`), and the options that they ask
for depend only on which of them occur (`Modes.ofFlags`). The source is compiled under these options, by
any engine.
-/

namespace Sift.Pattern

/-- The options that the flags of a literal ask for. -/
def Modes.ofFlags (flags : List Char) : Modes :=
  ⟨flags.contains 'i', flags.contains 'm', flags.contains 's', flags.contains 'x'⟩

namespace Expression

/-! ## Slashes -/

theorem not_mem_of_splitLastSlash? {cs : List Char} (h : splitLastSlash? cs = none) :
    '/' ∉ cs := by
  induction cs with
  | nil => exact List.not_mem_nil
  | cons c rest ih =>
    rw [splitLastSlash?] at h
    split at h
    next => cases h
    next hrest =>
      split at h
      next => cases h
      next hc => exact List.not_mem_cons_of_ne_of_not_mem (Ne.symm hc) (ih hrest)

theorem eq_append_of_splitLastSlash? {cs source flags : List Char}
    (h : splitLastSlash? cs = some (source, flags)) : cs = source ++ '/' :: flags ∧ '/' ∉ flags := by
  induction cs generalizing source with
  | nil => cases h
  | cons c rest ih =>
    rw [splitLastSlash?] at h
    split at h
    next source' flags' hrest =>
      cases h
      obtain ⟨hcs, hflags⟩ := ih hrest
      exact ⟨congrArg (c :: ·) hcs, hflags⟩
    next hrest =>
      split at h
      next hc =>
        cases h
        exact ⟨congrArg (· :: flags) hc, not_mem_of_splitLastSlash? hrest⟩
      next => cases h

theorem splitLastSlash?_append (source : List Char) {flags : List Char} (h : '/' ∉ flags) :
    splitLastSlash? (source ++ '/' :: flags) = some (source, flags) := by
  have hnone : splitLastSlash? flags = none := by
    cases hsplit : splitLastSlash? flags with
    | none => rfl
    | some parts =>
      obtain ⟨hflags, -⟩ := eq_append_of_splitLastSlash? hsplit
      rw [hflags] at h
      exact absurd (List.mem_append_right _ List.mem_cons_self) h
  induction source with
  | nil =>
    rw [List.nil_append, splitLastSlash?, hnone]
    rfl
  | cons c rest ih => rw [List.cons_append, splitLastSlash?, ih]

/-- A literal is taken apart at its first slash and its last one. -/
theorem parts?_eq_some_iff {literal source : String} {flags : List Char} :
    parts? literal = some (source, flags) ↔
      literal.toList = '/' :: (source.toList ++ '/' :: flags) ∧ '/' ∉ flags := by
  unfold parts?
  constructor
  · intro h
    split at h
    next rest hliteral =>
      obtain ⟨⟨source', flags'⟩, hsplit, heq⟩ := Option.map_eq_some_iff.mp h
      cases heq
      obtain ⟨hrest, hflags⟩ := eq_append_of_splitLastSlash? hsplit
      exact ⟨by rw [hliteral, hrest, String.toList_ofList], hflags⟩
    next => cases h
  · rintro ⟨hliteral, hflags⟩
    rw [hliteral]
    change (splitLastSlash? (source.toList ++ '/' :: flags)).map _ = _
    rw [splitLastSlash?_append _ hflags]
    exact congrArg (fun s => some (s, flags)) String.ofList_toList

/-! ## Flags -/

def flagLetters : List Char :=
  ['i', 'm', 's', 'x', 'g', 'y', 'u']

def withFlags (modes : Modes) (flags : List Char) : Modes :=
  { modes with
    anyCase := modes.anyCase || flags.contains 'i'
    multiLine := modes.multiLine || flags.contains 'm'
    dotAll := modes.dotAll || flags.contains 's'
    spaced := modes.spaced || flags.contains 'x' }

theorem addFlag_eq (modes : Modes) {flag : Char} (h : flag ∈ flagLetters) :
    addFlag modes flag = .ok (withFlags modes [flag]) := by
  simp only [flagLetters, List.mem_cons, List.not_mem_nil, or_false] at h
  obtain rfl | rfl | rfl | rfl | rfl | rfl | rfl := h <;> simp [addFlag, withFlags]

theorem withFlags_cons (modes : Modes) (flag : Char) (flags : List Char) :
    withFlags (withFlags modes [flag]) flags = withFlags modes (flag :: flags) := by
  simp [withFlags, Bool.or_assoc]

theorem addFlag_of_not_mem (modes : Modes) {flag : Char} (h : flag ∉ flagLetters) :
    addFlag modes flag = .error (.invalidOperand (.unknownFlag flag)) := by
  unfold addFlag
  split
  case h_8 => rfl
  all_goals exact absurd (by decide) h

/-- Flags are read if each of them has a meaning, and then they turn on the modes of those that
occur. -/
theorem foldlM_addFlag_eq_ok_iff {modes modes' : Modes} {flags : List Char} :
    flags.foldlM addFlag modes = .ok modes' ↔
      (∀ flag ∈ flags, flag ∈ flagLetters) ∧ modes' = withFlags modes flags := by
  induction flags generalizing modes with
  | nil =>
    have hmodes : withFlags modes [] = modes := by simp [withFlags]
    rw [hmodes]
    exact ⟨fun h => ⟨nofun, (Except.ok.inj h).symm⟩, fun h => congrArg Except.ok h.2.symm⟩
  | cons flag rest ih =>
    rw [List.foldlM_cons, List.forall_mem_cons]
    by_cases hflag : flag ∈ flagLetters
    · rw [addFlag_eq modes hflag, ← withFlags_cons modes flag rest, and_iff_right hflag]
      exact ih
    · rw [addFlag_of_not_mem modes hflag]
      exact iff_of_false nofun fun h => hflag h.1.1

theorem foldlM_addFlag_initial_eq_ok_iff {modes : Modes} {flags : List Char} :
    flags.foldlM addFlag .initial = .ok modes ↔
      (∀ flag ∈ flags, flag ∈ flagLetters) ∧ modes = .ofFlags flags := by
  have hinitial : withFlags .initial flags = .ofFlags flags := by
    simp [withFlags, Modes.initial, Modes.ofFlags]
  rw [foldlM_addFlag_eq_ok_iff, hinitial]

/-! ## Sources -/

variable [Engine]

theorem ofSource_eq_ok_iff {modes : Modes} {source : String} {e : Expression} :
    ofSource modes source = .ok e ↔
      Engine.compile modes source = .ok e.isMatch ∧ e.source = source := by
  obtain ⟨source', isMatch⟩ := e
  unfold ofSource
  cases Engine.compile modes source with
  | ok found =>
    constructor
    · rintro ⟨⟩
      exact ⟨rfl, rfl⟩
    · rintro ⟨⟨⟩, ⟨⟩⟩
      rfl
  | error text => exact iff_of_false nofun fun h => nomatch h.1

end Expression

end Sift.Pattern
