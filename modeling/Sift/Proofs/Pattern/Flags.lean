import Sift.Proofs.Pattern.Literal
import Sift.Proofs.Pattern.Plain

/-!
# Source and flags

A text is the literal of a source with flags in at most one way (`IsLiteral.unique`), however many
slashes the source has. Of the flags only those count that turn an option on, each of them once
(`Modes.ofFlags_eq_iff`), and they are read before the source: the first one without a meaning is the
fault of the literal, whatever stands between the slashes (`ofJson_literal`). What compiles is left to
the engine: `ofJson_eq_ok_iff` says which values are read as patterns, for every engine.
-/

namespace Sift.Pattern

/-! ## Modes -/

/-- Flags ask for the same options if the same ones of the letters with an option occur. -/
theorem Modes.ofFlags_eq_iff {flags flags' : List Char} :
    ofFlags flags = ofFlags flags' ↔
      ∀ letter ∈ ['i', 'm', 's', 'x'], letter ∈ flags ↔ letter ∈ flags' := by
  have hcontains (c : Char) :
      flags.contains c = flags'.contains c ↔ (c ∈ flags ↔ c ∈ flags') := by
    rw [Bool.eq_iff_iff, List.contains_iff_mem, List.contains_iff_mem]
  simp only [ofFlags, Modes.mk.injEq, hcontains, List.forall_mem_cons, List.not_mem_nil,
    false_implies, implies_true, and_true]

namespace Expression

/-- The text is a source between slashes, followed by flags that hold no slash. -/
structure IsLiteral (text source flags : String) : Prop where
  text_eq : text = "/" ++ source ++ "/" ++ flags
  no_slash : '/' ∉ flags.toList

section
variable {text source flags : String}

theorem isLiteral_iff : IsLiteral text source flags ↔ parts? text = some (source, flags.toList) := by
  rw [parts?_eq_some_iff]
  constructor
  · rintro ⟨rfl, hflags⟩
    exact ⟨by simp, hflags⟩
  · rintro ⟨htext, hflags⟩
    refine ⟨String.toList_injective ?_, hflags⟩
    rw [htext]
    simp

theorem IsLiteral.of_letters (source : String) (h : ∀ flag ∈ flags.toList, flag ∈ flagLetters) :
    IsLiteral ("/" ++ source ++ "/" ++ flags) source flags where
  text_eq := rfl
  no_slash hslash := absurd (h _ hslash) (by decide)

theorem IsLiteral.unique {source' flags' : String} (h : IsLiteral text source flags)
    (h' : IsLiteral text source' flags') : source = source' ∧ flags = flags' := by
  rw [isLiteral_iff] at h h'
  rw [h] at h'
  obtain ⟨hsource, hflags⟩ := Prod.mk.inj (Option.some.inj h')
  exact ⟨hsource, String.toList_injective hflags⟩

end

/-! ## Flags -/

theorem find?_notFlag_eq_none_iff {flags : List Char} :
    flags.find? (· ∉ flagLetters) = none ↔ ∀ flag ∈ flags, flag ∈ flagLetters := by
  simp only [List.find?_eq_none, decide_not, Bool.not_eq_true', decide_eq_false_iff_not, not_not]

/-- The first flag without a meaning ends the reading of flags. -/
theorem foldlM_addFlag_of_find? {flags : List Char} {flag : Char}
    (h : flags.find? (· ∉ flagLetters) = some flag) (modes : Modes) :
    flags.foldlM addFlag modes = .error (.invalidOperand (.unknownFlag flag)) := by
  induction flags generalizing modes with
  | nil => cases h
  | cons first rest ih =>
    rw [List.foldlM_cons]
    by_cases hfirst : first ∈ flagLetters
    · rw [List.find?_cons_of_neg (by simpa using hfirst)] at h
      rw [addFlag_eq modes hfirst]
      exact ih h _
    · rw [List.find?_cons_of_pos (by simpa using hfirst)] at h
      cases h
      rw [addFlag_of_not_mem modes hfirst]
      rfl

/-! ## Flags that say the same -/

def idleLetters : List Char :=
  ['g', 'y', 'u']

/-- Apart from the letters without an option, the same letters occur. -/
def SameFlags (flags flags' : List Char) : Prop :=
  ∀ letter, letter ∉ idleLetters → (letter ∈ flags ↔ letter ∈ flags')

section
variable {flags flags' : List Char}

theorem SameFlags.symm (h : SameFlags flags flags') : SameFlags flags' flags :=
  fun letter hletter => (h letter hletter).symm

theorem SameFlags.ofFlags_eq (h : SameFlags flags flags') :
    Modes.ofFlags flags = .ofFlags flags' := by
  refine Modes.ofFlags_eq_iff.mpr fun letter hletter => h letter ?_
  revert letter
  simp [idleLetters]

theorem SameFlags.letters (h : SameFlags flags flags') (hflags : ∀ flag ∈ flags, flag ∈ flagLetters) :
    ∀ flag ∈ flags', flag ∈ flagLetters := by
  have hidle : ∀ letter ∈ idleLetters, letter ∈ flagLetters := by simp [idleLetters, flagLetters]
  intro flag hflag
  by_cases hmem : flag ∈ idleLetters
  · exact hidle flag hmem
  · exact hflags flag ((h flag hmem).mpr hflag)

end

/-! ## Reading a literal -/

section Reading
variable [Engine]

/-- The flags of a literal are read before its source. -/
theorem ofJson_literal {text source flags : String} (h : IsLiteral text source flags) :
    ofJson (.string text) = match flags.toList.find? (· ∉ flagLetters) with
      | some flag => .error (.invalidOperand (.unknownFlag flag))
      | none => ofSource (.ofFlags flags.toList) source := by
  have hparts : (Json.string text).string?.bind parts? = some (source, flags.toList) :=
    isLiteral_iff.mp h
  unfold ofJson
  rw [hparts]
  cases hfind : flags.toList.find? (· ∉ flagLetters) with
  | some flag => exact congrArg (· >>= _) (foldlM_addFlag_of_find? hfind .initial)
  | none =>
    have hletters := find?_notFlag_eq_none_iff.mp hfind
    exact congrArg (· >>= _) (foldlM_addFlag_initial_eq_ok_iff.mpr ⟨hletters, rfl⟩)

theorem isLiteral_or_notPattern (text : String) :
    (∃ source flags, IsLiteral text source flags) ∨
      ofJson (.string text) = .error (.invalidOperand (.notPattern (.string text))) := by
  cases hparts : parts? text with
  | some parts =>
    obtain ⟨source, flags⟩ := parts
    refine .inl ⟨source, String.ofList flags, isLiteral_iff.mpr ?_⟩
    rw [hparts, String.toList_ofList]
  | none =>
    have hstring : (Json.string text).string?.bind parts? = none := hparts
    right
    unfold ofJson
    rw [hstring]

theorem ofSource_eq_malformedPattern_iff {modes : Modes} {source message : String} :
    ofSource modes source = .error (.invalidOperand (.malformedPattern message)) ↔
      Engine.compile modes source = .error message := by
  unfold ofSource
  cases Engine.compile modes source with
  | ok found => exact iff_of_false nofun nofun
  | error text =>
    constructor
    · rintro ⟨⟩
      rfl
    · rintro ⟨⟩
      rfl

theorem ofSource_ne_unknownFlag (modes : Modes) (source : String) (flag : Char) :
    ofSource modes source ≠ .error (.invalidOperand (.unknownFlag flag)) := by
  unfold ofSource
  split <;> exact nofun

/-- What the reading of a literal ends with, other than an unknown flag, its source does. -/
theorem IsLiteral.ofJson_eq_iff {text source flags : String} (h : IsLiteral text source flags)
    {result : Except Error Expression}
    (hresult : ∀ flag, result ≠ .error (.invalidOperand (.unknownFlag flag))) :
    ofJson (.string text) = result ↔
      (∀ flag ∈ flags.toList, flag ∈ flagLetters) ∧
        ofSource (.ofFlags flags.toList) source = result := by
  rw [ofJson_literal h]
  split
  next flag hflag =>
    refine iff_of_false (fun heq => hresult flag heq.symm) fun hok => ?_
    rw [find?_notFlag_eq_none_iff.mpr hok.1] at hflag
    cases hflag
  next hflags => exact (and_iff_right (find?_notFlag_eq_none_iff.mp hflags)).symm

theorem ofJson_string_eq_iff {text : String} {result : Except Error Expression}
    (hliteral : result ≠ .error (.invalidOperand (.notPattern (.string text))))
    (hresult : ∀ flag, result ≠ .error (.invalidOperand (.unknownFlag flag))) :
    ofJson (.string text) = result ↔ ∃ source flags, IsLiteral text source flags ∧
      (∀ flag ∈ flags.toList, flag ∈ flagLetters) ∧
        ofSource (.ofFlags flags.toList) source = result := by
  constructor
  · intro heq
    obtain ⟨source, flags, h⟩ | hrefused := isLiteral_or_notPattern text
    · exact ⟨source, flags, h, (h.ofJson_eq_iff hresult).mp heq⟩
    · exact absurd (heq.symm.trans hrefused) hliteral
  · rintro ⟨source, flags, h, hsource⟩
    exact (h.ofJson_eq_iff hresult).mpr hsource

theorem ofJson_string_eq_ok_iff {text : String} {e : Expression} :
    ofJson (.string text) = .ok e ↔ ∃ source flags, IsLiteral text source flags ∧
      (∀ flag ∈ flags.toList, flag ∈ flagLetters) ∧
        Engine.compile (.ofFlags flags.toList) source = .ok e.isMatch ∧ e.source = source := by
  refine (ofJson_string_eq_iff (by simp) (by simp)).trans ?_
  simp only [ofSource_eq_ok_iff]

/-- A value is read as a pattern if it is a text of a source between slashes and of flags that all
have a meaning, and the source compiles to that pattern under the options that the flags ask for. -/
theorem ofJson_eq_ok_iff {v : Json} {e : Expression} :
    ofJson v = .ok e ↔ ∃ source flags : String, v = .string ("/" ++ source ++ "/" ++ flags) ∧
      (∀ flag ∈ flags.toList, flag ∈ flagLetters) ∧
      Engine.compile (.ofFlags flags.toList) source = .ok e.isMatch ∧ e.source = source := by
  constructor
  · intro h
    cases v with
    | string text =>
      obtain ⟨source, flags, hliteral, hletters, hcompile⟩ := ofJson_string_eq_ok_iff.mp h
      exact ⟨source, flags, congrArg Json.string hliteral.text_eq, hletters, hcompile⟩
    | _ => cases h
  · rintro ⟨source, flags, rfl, hletters, hcompile⟩
    have hliteral := IsLiteral.of_letters source hletters
    exact ofJson_string_eq_ok_iff.mpr ⟨source, flags, hliteral, hletters, hcompile⟩

theorem ofJson_string_eq_malformedPattern_iff {text message : String} :
    ofJson (.string text) = .error (.invalidOperand (.malformedPattern message)) ↔
      ∃ source flags, IsLiteral text source flags ∧
        (∀ flag ∈ flags.toList, flag ∈ flagLetters) ∧
          Engine.compile (.ofFlags flags.toList) source = .error message := by
  refine (ofJson_string_eq_iff (by simp) (by simp)).trans ?_
  simp only [ofSource_eq_malformedPattern_iff]

theorem ofJson_eq_unknownFlag_iff {text : String} {flag : Char} :
    ofJson (.string text) = .error (.invalidOperand (.unknownFlag flag)) ↔
      ∃ source flags, IsLiteral text source flags ∧
        flags.toList.find? (· ∉ flagLetters) = some flag := by
  constructor
  · intro herror
    obtain ⟨source, flags, h⟩ | hrefused := isLiteral_or_notPattern text
    · refine ⟨source, flags, h, ?_⟩
      rw [ofJson_literal h] at herror
      split at herror
      next first hfirst =>
        cases herror
        exact hfirst
      next => exact absurd herror (ofSource_ne_unknownFlag _ source flag)
    · rw [herror] at hrefused
      cases hrefused
  · rintro ⟨source, flags, h, hflag⟩
    rw [ofJson_literal h, hflag]

section
variable {source text text' flags flags' : String} (h : IsLiteral text source flags)
  (h' : IsLiteral text' source flags')
include h h'

/-- Literals of one source are one pattern, if the same letters with an option occur in their flags. -/
theorem IsLiteral.same_pattern
    (hmodes : ∀ letter ∈ ['i', 'm', 's', 'x'], letter ∈ flags.toList ↔ letter ∈ flags'.toList)
    {e e' : Expression} (he : ofJson (.string text) = .ok e)
    (he' : ofJson (.string text') = .ok e') : e = e' := by
  obtain ⟨-, he⟩ := (h.ofJson_eq_iff (by simp)).mp he
  obtain ⟨-, he'⟩ := (h'.ofJson_eq_iff (by simp)).mp he'
  rw [Modes.ofFlags_eq_iff.mpr hmodes, he'] at he
  exact (Except.ok.inj he).symm

theorem IsLiteral.ofJson_iff_of_sameFlags (hsame : SameFlags flags.toList flags'.toList)
    (e : Expression) : ofJson (.string text) = .ok e ↔ ofJson (.string text') = .ok e := by
  rw [h.ofJson_eq_iff (by simp), h'.ofJson_eq_iff (by simp), hsame.ofFlags_eq]
  exact and_congr_left' ⟨hsame.letters, hsame.symm.letters⟩

end

/-- A text is the literal of one source and one text of flags at most. It is read as a pattern if it is
a literal, all its flags have a meaning, and its source compiles to that pattern under their options. So
literals of one source are read as the same pattern, if the same letters with an option occur in their
flags; and flags that are permuted or repeated, or that have further letters without an option, leave
all as it is. The first flag without a meaning is reported, whatever the source is; where there is none,
the error of compiling is. -/
theorem ofJson_decomposes (text : String) :
    (∀ source flags source' flags', IsLiteral text source flags → IsLiteral text source' flags' →
      source = source' ∧ flags = flags') ∧
    (∀ e, ofJson (.string text) = .ok e ↔ ∃ source flags, IsLiteral text source flags ∧
      (∀ flag ∈ flags.toList, flag ∈ flagLetters) ∧
        Engine.compile (.ofFlags flags.toList) source = .ok e.isMatch ∧ e.source = source) ∧
    (∀ source flags text' flags' e e', IsLiteral text source flags → IsLiteral text' source flags' →
      (∀ letter ∈ ['i', 'm', 's', 'x'], letter ∈ flags.toList ↔ letter ∈ flags'.toList) →
      ofJson (.string text) = .ok e → ofJson (.string text') = .ok e' → e = e') ∧
    (∀ source flags text' flags', IsLiteral text source flags → IsLiteral text' source flags' →
      SameFlags flags.toList flags'.toList →
      ∀ e, ofJson (.string text) = .ok e ↔ ofJson (.string text') = .ok e) ∧
    (∀ flag, ofJson (.string text) = .error (.invalidOperand (.unknownFlag flag)) ↔
      ∃ source flags, IsLiteral text source flags ∧
        flags.toList.find? (· ∉ flagLetters) = some flag) ∧
    ∀ message, ofJson (.string text) = .error (.invalidOperand (.malformedPattern message)) ↔
      ∃ source flags, IsLiteral text source flags ∧
        (∀ flag ∈ flags.toList, flag ∈ flagLetters) ∧
          Engine.compile (.ofFlags flags.toList) source = .error message :=
  ⟨fun _ _ _ _ h h' => h.unique h', fun _ => ofJson_string_eq_ok_iff,
    fun _ _ _ _ _ _ h h' hmodes => h.same_pattern h' hmodes,
    fun _ _ _ _ h h' hsame => h.ofJson_iff_of_sameFlags h' hsame,
    fun _ => ofJson_eq_unknownFlag_iff, fun _ => ofJson_string_eq_malformedPattern_iff⟩

end Reading

section
attribute [local instance] Engine.plain

/-- The source may hold a slash, and other flags may ask for the same. An unknown flag comes first,
though the source does not compile. -/
theorem ofJson_decomposes_slash :
    IsLiteral "/a/b/gs" "a/b" "gs" ∧ IsLiteral "/a/b/ssy" "a/b" "ssy" ∧
      SameFlags "gs".toList "ssy".toList ∧
      (∃ e, ofJson (.string "/a/b/gs") = .ok e ∧ ofJson (.string "/a/b/ssy") = .ok e ∧
        e.isMatch "xa/by" = true) ∧
      (∃ message, Engine.compile .initial "(" = .error message) ∧
      ofJson (.string "/(/mqz") = .error (.invalidOperand (.unknownFlag 'q')) := by
  have hgs : IsLiteral "/a/b/gs" "a/b" "gs" := ⟨by decide, by decide⟩
  have hssy : IsLiteral "/a/b/ssy" "a/b" "ssy" := ⟨by decide, by decide⟩
  have hsame : SameFlags "gs".toList "ssy".toList := by
    intro letter hletter
    simp only [idleLetters, List.mem_cons, List.not_mem_nil, or_false, not_or] at hletter
    change letter ∈ ['g', 's'] ↔ letter ∈ ['s', 's', 'y']
    simp [hletter]
  obtain ⟨-, hok, -, hiff, -⟩ := ofJson_decomposes "/a/b/gs"
  obtain ⟨-, -, -, -, hunknown, -⟩ := ofJson_decomposes "/(/mqz"
  have he : ofJson (.string "/a/b/gs") =
      .ok ⟨"a/b", fun text => occursIn "a/b".toList text.toList⟩ :=
    (hok _).mpr ⟨"a/b", "gs", hgs, by simp [flagLetters], rfl, rfl⟩
  exact ⟨hgs, hssy, hsame, ⟨_, he, (hiff "a/b" "gs" _ "ssy" hgs hssy hsame _).mp he, rfl⟩,
    ⟨_, rfl⟩, (hunknown 'q').mpr ⟨"(", "mqz", ⟨by decide, by decide⟩, by decide⟩⟩

end

end Expression

end Sift.Pattern
