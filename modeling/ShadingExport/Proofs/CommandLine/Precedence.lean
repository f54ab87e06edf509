import ShadingExport.CommandLine.Arguments
import Mathlib.Algebra.Group.Nat.Even

/-!
# Which arguments count

A command line is read as pairs of a flag and a value (`argumentPairs`). It is accepted exactly if
it consists of whole pairs, with flags in the places of flags and modes behind the flags of modes
(`Arguments.exists_parseFrom_iff`); otherwise its error is that of the first pair with a defect
(`Arguments.parseFrom_eq_error_iff`). Each pair is one step, which has a defect or sets one field,
and what the steps do to a field comes down to the last value of its flag
(`Arguments.FieldOf.parseFrom`). So a longer command line overrides a shorter one field by field
(`Arguments.parseFrom_append`), as it does the settings of a scene.
-/

namespace ShadingExport

/-! ## Spellings -/

/-- A text is one of the spellings, up to the case of its letters. -/
def SpelledAs (spellings : List String) (text : String) : Prop :=
  ∃ spelling ∈ spellings, text.toLower = spelling.toLower

/-- Where all spellings are in lower case, it is the lower case of a text that counts. -/
theorem spelledAs_iff {spellings : List String} {text : String}
    (hlower : spellings.map String.toLower = spellings) :
    SpelledAs spellings text ↔ text.toLower ∈ spellings := by
  constructor
  · rintro ⟨spelling, hspelling, hsame⟩
    rw [hsame, ← hlower]
    exact List.mem_map_of_mem hspelling
  · intro hmem
    rw [← hlower] at hmem
    obtain ⟨spelling, hspelling, hsame⟩ := List.mem_map.mp hmem
    exact ⟨spelling, hspelling, hsame.symm⟩

namespace Flag

variable {flag : Flag} {text : String}

/-- The spellings of a flag. -/
def spellings : Flag → List String
  | .sceneJson => ["--scene-json"]
  | .output => ["--output", "-o"]
  | .materialMode => ["--material-mode"]
  | .glossyMode => ["--glossy-mode"]
  | .textureDirectory => ["--texture-dir"]

/-- A text is read as the flag that it spells. -/
theorem ofText?_eq_some_iff : ofText? text = some flag ↔ text ∈ flag.spellings := by
  constructor
  · intro h
    unfold ofText? at h
    split at h
    all_goals cases h
    all_goals decide
  · intro h
    cases flag with
    | output =>
      rcases List.mem_cons.mp h with rfl | h
      · rfl
      · rw [List.mem_singleton.mp h]
        rfl
    | sceneJson | materialMode | glossyMode | textureDirectory =>
      rw [List.mem_singleton.mp h]
      rfl

/-- A text that is read as no flag spells none. -/
theorem ofText?_eq_none_iff : ofText? text = none ↔ ∀ flag : Flag, text ∉ flag.spellings := by
  rw [Option.eq_none_iff_forall_ne_some]
  exact forall_congr' fun flag => not_congr ofText?_eq_some_iff

end Flag

namespace MaterialMode

/-- The spellings of a mode; a flat material is also called lambertian. -/
def spellings : MaterialMode → List String
  | .convert => ["convert"]
  | .flatten => ["flatten", "lambertian"]

theorem spelledAs_iff_mem (mode : MaterialMode) {text : String} :
    SpelledAs mode.spellings text ↔ text.toLower ∈ mode.spellings :=
  spelledAs_iff (by cases mode <;> decide +kernel)

/-- A text is read as the mode that it spells, in any letter case. -/
theorem parse_eq_ok_iff {text : String} {mode : MaterialMode} :
    parse text = .ok mode ↔ SpelledAs mode.spellings text := by
  rw [spelledAs_iff_mem]
  unfold parse
  split
  · next h => rw [h]; cases mode <;> decide
  · next h => rw [h]; cases mode <;> decide
  · next h => rw [h]; cases mode <;> decide
  · next hconvert hflatten hlambertian =>
    refine iff_of_false nofun fun h => ?_
    cases mode with
    | convert => exact hconvert (List.mem_singleton.mp h)
    | flatten =>
      rcases List.mem_cons.mp h with h | h
      · exact hflatten h
      · exact hlambertian (List.mem_singleton.mp h)

/-- A text that spells no mode is reported in lower case. -/
theorem parse_eq_error_iff {text : String} {error : ModeError} :
    parse text = .error error ↔
      (∀ mode : MaterialMode, ¬ SpelledAs mode.spellings text) ∧
        error = .unknownMaterialMode text.toLower := by
  cases hparse : parse text with
  | ok mode =>
    refine iff_of_false nofun fun h => h.1 mode (parse_eq_ok_iff.mp hparse)
  | error other =>
    have hnone : ∀ mode : MaterialMode, ¬ SpelledAs mode.spellings text := by
      intro mode hmode
      rw [parse_eq_ok_iff.mpr hmode] at hparse
      cases hparse
    have hother : other = .unknownMaterialMode text.toLower := by
      unfold parse at hparse
      split at hparse
      all_goals cases hparse
      rfl
    rw [Except.error.injEq, hother, eq_comm]
    exact (and_iff_right hnone).symm

end MaterialMode

namespace GlossyMode

/-- The spellings of a mode. -/
def spellings : GlossyMode → List String
  | .roughConductor => ["rough conductor", "rough-conductor"]
  | .blinnPhong => ["blinn-phong"]
  | .phong => ["phong"]
  | .metal => ["metal"]

theorem spelledAs_iff_mem (mode : GlossyMode) {text : String} :
    SpelledAs mode.spellings text ↔ text.toLower ∈ mode.spellings :=
  spelledAs_iff (by cases mode <;> decide +kernel)

/-- A name is that of a mode if it is one of its spellings. -/
theorem ofName?_eq_some_iff {name : String} {mode : GlossyMode} :
    ofName? name = some mode ↔ name ∈ mode.spellings := by
  constructor
  · intro h
    unfold ofName? at h
    split at h
    all_goals cases h
    all_goals decide
  · intro h
    cases mode with
    | roughConductor =>
      rcases List.mem_cons.mp h with rfl | h
      · rfl
      · rw [List.mem_singleton.mp h]
        rfl
    | blinnPhong | phong | metal =>
      rw [List.mem_singleton.mp h]
      rfl

/-- A text is read as the mode that it spells, in any letter case. -/
theorem parse_eq_ok_iff {text : String} {mode : GlossyMode} :
    parse text = .ok mode ↔ SpelledAs mode.spellings text := by
  rw [spelledAs_iff_mem, ← ofName?_eq_some_iff]
  unfold parse
  cases ofName? text.toLower <;> simp

/-- A text that spells no mode is reported in lower case. -/
theorem parse_eq_error_iff {text : String} {error : ModeError} :
    parse text = .error error ↔
      (∀ mode : GlossyMode, ¬ SpelledAs mode.spellings text) ∧
        error = .unknownGlossyMode text.toLower := by
  have hnone : ofName? text.toLower = none ↔
      ∀ mode : GlossyMode, ¬ SpelledAs mode.spellings text := by
    rw [Option.eq_none_iff_forall_ne_some]
    refine forall_congr' fun mode => not_congr ?_
    rw [ofName?_eq_some_iff, spelledAs_iff_mem]
  rw [← hnone]
  unfold parse
  cases ofName? text.toLower <;> simp [eq_comm]

end GlossyMode

/-! ## Pairs of a flag and a value -/

/-- The texts of a command line in pairs: one in the place of a flag with the value behind it. The
last one may lack its value. -/
def argumentPairs : List String → List (String × Option String)
  | [] => []
  | [text] => [(text, none)]
  | text :: value :: rest => (text, some value) :: argumentPairs rest

/-- The values given for a flag, in order. -/
def valuesOf (flag : Flag) (texts : List String) : List String :=
  (argumentPairs texts).filterMap fun pair => if pair.1 ∈ flag.spellings then pair.2 else none

/-- The last value of a flag is in the rest of a command line, or it is the first. -/
theorem getLast?_valuesOf_cons (flag : Flag) (text value : String) (rest : List String) :
    (valuesOf flag (text :: value :: rest)).getLast? =
      (valuesOf flag rest).getLast?.or (if text ∈ flag.spellings then some value else none) := by
  rw [valuesOf, argumentPairs, List.filterMap_cons]
  by_cases hflag : text ∈ flag.spellings
  · simp only [if_pos hflag]
    rw [← valuesOf, List.getLast?_cons]
    cases (valuesOf flag rest).getLast? <;> rfl
  · simp only [if_neg hflag]
    rw [← valuesOf, Option.or_none]

/-- What is wrong with a text in the place of a flag and the value behind it. -/
inductive PairDefect : String → Option String → ArgumentError → Prop where
  /-- The text is no flag. -/
  | unknown {text : String} {value : Option String} (htext : ∀ flag : Flag, text ∉ flag.spellings) :
    PairDefect text value (.unknownArgument text)
  /-- There is no value behind the flag. -/
  | dangling {text : String} {flag : Flag} (htext : text ∈ flag.spellings) :
    PairDefect text none (.missingValue flag)
  /-- The value is no material mode. -/
  | materialMode {value : String}
    (hvalue : ∀ mode : MaterialMode, ¬ SpelledAs mode.spellings value) :
    PairDefect "--material-mode" (some value) (.invalidMode (.unknownMaterialMode value.toLower))
  /-- The value is no glossy mode. -/
  | glossyMode {value : String}
    (hvalue : ∀ mode : GlossyMode, ¬ SpelledAs mode.spellings value) :
    PairDefect "--glossy-mode" (some value) (.invalidMode (.unknownGlossyMode value.toLower))

/-- The error is the defect of the leftmost pair that has one. -/
def LeftmostDefect (texts : List String) (error : ArgumentError) : Prop :=
  ∃ before text value after, argumentPairs texts = before ++ (text, value) :: after ∧
    (∀ pair ∈ before, ∀ other, ¬ PairDefect pair.1 pair.2 other) ∧ PairDefect text value error

/-- A command line of whole pairs, with a flag in every place of a flag and a mode behind every flag
of a mode. -/
structure AcceptableArguments (texts : List String) : Prop where
  /-- Every flag has a value. -/
  even : Even texts.length
  /-- Flags stand at the even positions. -/
  flags : ∀ index text, texts[2 * index]? = some text → ∃ flag : Flag, text ∈ flag.spellings
  /-- What stands behind the flag of the material mode is one. -/
  materialModes : ∀ index value, texts[2 * index]? = some "--material-mode" →
    texts[2 * index + 1]? = some value → ∃ mode : MaterialMode, SpelledAs mode.spellings value
  /-- What stands behind the flag of the glossy mode is one. -/
  glossyModes : ∀ index value, texts[2 * index]? = some "--glossy-mode" →
    texts[2 * index + 1]? = some value → ∃ mode : GlossyMode, SpelledAs mode.spellings value

/-- A first pair is acceptable if it has no defect. -/
theorem acceptableArguments_cons_iff {text value : String} {rest : List String} :
    AcceptableArguments (text :: value :: rest) ↔
      (∀ error, ¬ PairDefect text (some value) error) ∧ AcceptableArguments rest := by
  constructor
  · intro h
    refine ⟨fun error hdefect => ?_, ?_⟩
    · cases hdefect with
      | unknown htext =>
        obtain ⟨flag, hflag⟩ := h.flags 0 text rfl
        exact htext flag hflag
      | materialMode hvalue =>
        obtain ⟨mode, hmode⟩ := h.materialModes 0 value rfl rfl
        exact hvalue mode hmode
      | glossyMode hvalue =>
        obtain ⟨mode, hmode⟩ := h.glossyModes 0 value rfl rfl
        exact hvalue mode hmode
    · -- The positions of the rest are two lower.
      constructor
      · simpa [Nat.even_add_one] using h.even
      · exact fun index => h.flags (index + 1)
      · exact fun index => h.materialModes (index + 1)
      · exact fun index => h.glossyModes (index + 1)
  · rintro ⟨hpair, hrest⟩
    constructor
    · simpa [Nat.even_add_one] using hrest.even
    · rintro (_ | index) found hfound
      · by_contra hnone
        cases hfound
        exact hpair _ (.unknown (not_exists.mp hnone))
      · exact hrest.flags index found hfound
    · rintro (_ | index) found hflag hfound
      · by_contra hnone
        cases hflag
        cases hfound
        exact hpair _ (.materialMode (not_exists.mp hnone))
      · exact hrest.materialModes index found hflag hfound
    · rintro (_ | index) found hflag hfound
      · by_contra hnone
        cases hflag
        cases hfound
        exact hpair _ (.glossyMode (not_exists.mp hnone))
      · exact hrest.glossyModes index found hflag hfound

/-- A single text is the only pair. -/
theorem leftmostDefect_singleton_iff {text : String} {error : ArgumentError} :
    LeftmostDefect [text] error ↔ PairDefect text none error := by
  constructor
  · rintro ⟨before, text', value, after, hpairs, -, hdefect⟩
    cases before with
    | nil =>
      cases hpairs
      exact hdefect
    | cons => simp [argumentPairs] at hpairs
  · intro hdefect
    exact ⟨[], text, none, [], rfl, List.forall_mem_nil _, hdefect⟩

/-- The leftmost defect is that of the first pair, or of the rest if the first pair has none. -/
theorem leftmostDefect_cons_iff {text value : String} {rest : List String}
    {error : ArgumentError} :
    LeftmostDefect (text :: value :: rest) error ↔
      PairDefect text (some value) error ∨
        (∀ other, ¬ PairDefect text (some value) other) ∧ LeftmostDefect rest error := by
  constructor
  · rintro ⟨before, text', value', after, hpairs, hbefore, hdefect⟩
    cases before with
    | nil =>
      cases hpairs
      exact .inl hdefect
    | cons pair before =>
      obtain ⟨rfl, hrest⟩ := List.cons.inj hpairs
      rw [List.forall_mem_cons] at hbefore
      exact .inr ⟨hbefore.1, before, text', value', after, hrest, hbefore.2, hdefect⟩
  · rintro (hdefect | ⟨hnone, before, text', value', after, hrest, hbefore, hdefect⟩)
    · exact ⟨[], text, some value, argumentPairs rest, rfl, List.forall_mem_nil _, hdefect⟩
    · refine ⟨(text, some value) :: before, text', value', after, ?_, ?_, hdefect⟩
      · rw [argumentPairs, hrest, List.cons_append]
      · exact List.forall_mem_cons.mpr ⟨hnone, hbefore⟩

namespace Arguments

variable {arguments next result : Arguments} {texts : List String} {error : ArgumentError}
  {flag : Flag} {text value : String}

/-! ## One pair -/

/-- **A value is refused exactly if its pair has a defect.** -/
theorem set_eq_error_iff (htext : text ∈ flag.spellings) :
    arguments.set flag value = .error error ↔ PairDefect text (some value) error := by
  have hread : Flag.ofText? text = some flag := Flag.ofText?_eq_some_iff.mpr htext
  constructor
  · intro h
    cases flag with
    | sceneJson | output | textureDirectory => cases h
    | materialMode =>
      cases List.mem_singleton.mp htext
      unfold set at h
      cases hparse : MaterialMode.parse value with
      | ok mode => simp [hparse] at h
      | error cause =>
        obtain ⟨hnone, rfl⟩ := MaterialMode.parse_eq_error_iff.mp hparse
        simp only [hparse, Except.error.injEq] at h
        exact h ▸ .materialMode hnone
    | glossyMode =>
      cases List.mem_singleton.mp htext
      unfold set at h
      cases hparse : GlossyMode.parse value with
      | ok mode => simp [hparse] at h
      | error cause =>
        obtain ⟨hnone, rfl⟩ := GlossyMode.parse_eq_error_iff.mp hparse
        simp only [hparse, Except.error.injEq] at h
        exact h ▸ .glossyMode hnone
  · intro h
    cases h with
    | unknown hnone => exact absurd htext (hnone flag)
    | materialMode hvalue =>
      cases hread
      unfold set
      rw [MaterialMode.parse_eq_error_iff.mpr ⟨hvalue, rfl⟩]
    | glossyMode hvalue =>
      cases hread
      unfold set
      rw [GlossyMode.parse_eq_error_iff.mpr ⟨hvalue, rfl⟩]

/-- What a first pair does to a command line: it has one defect, which is the error, or it has none
and sets the field of its flag. -/
theorem parseFrom_cons_cases (arguments : Arguments) (text value : String) (rest : List String) :
    (∃ error, (∀ other, PairDefect text (some value) other ↔ other = error) ∧
      arguments.parseFrom (text :: value :: rest) = .error error) ∨
    ∃ flag next, text ∈ flag.spellings ∧ (∀ error, ¬ PairDefect text (some value) error) ∧
      arguments.set flag value = .ok next ∧
        arguments.parseFrom (text :: value :: rest) = next.parseFrom rest := by
  rw [parseFrom]
  cases hread : Flag.ofText? text with
  | none =>
    have hnone := Flag.ofText?_eq_none_iff.mp hread
    refine .inl ⟨_, fun other => ⟨?_, ?_⟩, rfl⟩
    · intro hdefect
      cases hdefect with
      | unknown => rfl
      | materialMode => cases hread
      | glossyMode => cases hread
    · rintro rfl
      exact .unknown hnone
  | some flag =>
    have htext : text ∈ flag.spellings := Flag.ofText?_eq_some_iff.mp hread
    cases hset : arguments.set flag value with
    | error error =>
      refine .inl ⟨error, fun other => ?_, by simp only [hset]⟩
      have hother : arguments.set flag value = .error other ↔ PairDefect text (some value) other :=
        set_eq_error_iff htext
      rw [← hother, hset, Except.error.injEq, eq_comm]
    | ok next =>
      refine .inr ⟨flag, next, htext, fun error hdefect => ?_, hset, by simp only [hset]⟩
      rw [(set_eq_error_iff htext).mpr hdefect] at hset
      cases hset

/-! ## Whole command lines -/

/-- A flag without a value is not read. -/
theorem parseFrom_singleton_ne_ok : arguments.parseFrom [text] ≠ .ok result := by
  rw [parseFrom]
  cases Flag.ofText? text with
  | none => nofun
  | some flag => nofun

/-- **The error of a command line is that of its leftmost pair with a defect**, whatever was read
before. -/
theorem parseFrom_eq_error_iff :
    arguments.parseFrom texts = .error error ↔ LeftmostDefect texts error := by
  induction texts using argumentPairs.induct generalizing arguments with
  | case1 =>
    refine iff_of_false nofun ?_
    rintro ⟨before, text, value, after, hpairs, -⟩
    cases before <;> cases hpairs
  | case2 text =>
    rw [leftmostDefect_singleton_iff, parseFrom]
    constructor
    · intro h
      cases hread : Flag.ofText? text with
      | none =>
        simp only [hread, Except.error.injEq] at h
        exact h ▸ .unknown (Flag.ofText?_eq_none_iff.mp hread)
      | some flag =>
        simp only [hread, Except.error.injEq] at h
        exact h ▸ .dangling (Flag.ofText?_eq_some_iff.mp hread)
    · intro hdefect
      cases hdefect with
      | unknown htext => simp only [Flag.ofText?_eq_none_iff.mpr htext]
      | dangling htext => simp only [Flag.ofText?_eq_some_iff.mpr htext]
  | case3 text value rest ih =>
    rw [leftmostDefect_cons_iff]
    rcases arguments.parseFrom_cons_cases text value rest with
      ⟨first, hfirst, hparse⟩ | ⟨flag, next, -, hnone, -, hparse⟩
    · have hsome := (hfirst first).mpr rfl
      rw [hparse, hfirst, or_iff_left fun hrest => hrest.1 first hsome, Except.error.injEq,
        eq_comm]
    · rw [hparse, ih, or_iff_right (hnone error), and_iff_right hnone]

/-- **Exactly the acceptable command lines are read.** -/
theorem exists_parseFrom_iff (arguments : Arguments) :
    (∃ result, arguments.parseFrom texts = .ok result) ↔ AcceptableArguments texts := by
  induction texts using argumentPairs.induct generalizing arguments with
  | case1 =>
    refine iff_of_true ⟨arguments, rfl⟩ ?_
    constructor
    · exact Even.zero
    all_goals simp
  | case2 text =>
    refine iff_of_false ?_ fun h => by simpa using h.even
    rintro ⟨result, hresult⟩
    exact parseFrom_singleton_ne_ok hresult
  | case3 text value rest ih =>
    rw [acceptableArguments_cons_iff]
    rcases arguments.parseFrom_cons_cases text value rest with
      ⟨first, hfirst, hparse⟩ | ⟨flag, next, -, hnone, -, hparse⟩
    · rw [hparse]
      refine iff_of_false ?_ fun h => h.1 first ((hfirst first).mpr rfl)
      rintro ⟨result, ⟨⟩⟩
    · rw [hparse, ih, and_iff_right hnone]

/-- A longer command line is read on top of a shorter one. -/
theorem parseFrom_append (h : arguments.parseFrom texts = .ok next) (later : List String) :
    arguments.parseFrom (texts ++ later) = next.parseFrom later := by
  induction texts using argumentPairs.induct generalizing arguments with
  | case1 =>
    cases h
    rfl
  | case2 text => exact absurd h parseFrom_singleton_ne_ok
  | case3 text value rest ih =>
    rcases arguments.parseFrom_cons_cases text value rest with
      ⟨first, -, hparse⟩ | ⟨flag, middle, htext, -, hset, hparse⟩
    · rw [hparse] at h
      cases h
    · rw [hparse] at h
      rw [List.cons_append, List.cons_append, parseFrom, Flag.ofText?_eq_some_iff.mpr htext]
      simp only [hset]
      exact ih h

/-! ## The last value of a flag -/

/-- A field of a flag holds what a value of the flag reads as, and no other flag changes it. -/
structure FieldOf {α : Type} (flag : Flag) (read : String → Option α)
    (field : Arguments → Option α) : Prop where
  /-- A value of the flag is read into the field. -/
  set_own : ∀ arguments value next, set arguments flag value = .ok next → field next = read value
  /-- A value of another flag leaves the field as it is. -/
  set_other : ∀ arguments other value next, other ≠ flag → set arguments other value = .ok next →
    field next = field arguments

/-- **A field holds what the last value of its flag reads as**, or what it held before if the flag
is not given. -/
theorem FieldOf.parseFrom {α : Type} {read : String → Option α} {field : Arguments → Option α}
    (h : FieldOf flag read field) (hparse : arguments.parseFrom texts = .ok result) :
    field result = (valuesOf flag texts).getLast?.elim (field arguments) read := by
  induction texts using argumentPairs.induct generalizing arguments with
  | case1 =>
    cases hparse
    rfl
  | case2 text => exact absurd hparse parseFrom_singleton_ne_ok
  | case3 text value rest ih =>
    rcases arguments.parseFrom_cons_cases text value rest with
      ⟨first, -, hcons⟩ | ⟨given, next, htext, -, hset, hcons⟩
    · rw [hcons] at hparse
      cases hparse
    rw [hcons] at hparse
    rw [ih hparse, getLast?_valuesOf_cons]
    by_cases hown : given = flag
    · subst hown
      rw [if_pos htext, h.set_own _ _ _ hset]
      cases (valuesOf given rest).getLast? <;> rfl
    · -- The text spells one flag only.
      have hnot : text ∉ flag.spellings := by
        rw [← Flag.ofText?_eq_some_iff, Flag.ofText?_eq_some_iff.mpr htext]
        exact fun hsame => hown (Option.some.inj hsame)
      rw [if_neg hnot, Option.or_none, h.set_other _ _ _ _ hown hset]

theorem fieldOf_sceneJson : FieldOf .sceneJson some sceneJson where
  set_own := by grind [set]
  set_other := by
    intro arguments other value next hother hset
    cases other <;> grind [set]

theorem fieldOf_output : FieldOf .output some output where
  set_own := by grind [set]
  set_other := by
    intro arguments other value next hother hset
    cases other <;> grind [set]

theorem fieldOf_textureDirectory : FieldOf .textureDirectory some textureDirectory where
  set_own := by grind [set]
  set_other := by
    intro arguments other value next hother hset
    cases other <;> grind [set]

theorem fieldOf_materialMode :
    FieldOf .materialMode (fun value => (MaterialMode.parse value).toOption) materialMode where
  set_own := by
    intro arguments value next hset
    unfold set at hset
    cases hparse : MaterialMode.parse value <;> simp only [hparse] at hset <;> cases hset
    rfl
  set_other := by
    intro arguments other value next hother hset
    cases other <;> grind [set]

theorem fieldOf_glossyMode :
    FieldOf .glossyMode (fun value => (GlossyMode.parse value).toOption) glossyMode where
  set_own := by
    intro arguments value next hset
    unfold set at hset
    cases hparse : GlossyMode.parse value <;> simp only [hparse] at hset <;> cases hset
    rfl
  set_other := by
    intro arguments other value next hother hset
    cases other <;> grind [set]

/-! ## Command lines on top of each other -/

/-- The arguments of a command line with those of a later one on top. -/
def merge (earlier later : Arguments) : Arguments where
  sceneJson := later.sceneJson.or earlier.sceneJson
  output := later.output.or earlier.output
  materialMode := later.materialMode.or earlier.materialMode
  glossyMode := later.glossyMode.or earlier.glossyMode
  textureDirectory := later.textureDirectory.or earlier.textureDirectory

theorem merge_assoc (first second third : Arguments) :
    (first.merge second).merge third = first.merge (second.merge third) := by
  simp only [merge, Option.or_assoc]

/-- A value is set on top of earlier arguments. -/
theorem set_eq_map_merge (arguments : Arguments) (flag : Flag) (value : String) :
    arguments.set flag value = (set {} flag value).map arguments.merge := by
  cases flag with
  | sceneJson | output | textureDirectory => rfl
  | materialMode =>
    unfold set
    cases MaterialMode.parse value <;> rfl
  | glossyMode =>
    unfold set
    cases GlossyMode.parse value <;> rfl

/-- **A command line is read on top of earlier arguments** as if it were read alone and its fields
then put on top. -/
theorem parseFrom_eq_map_merge (arguments : Arguments) (texts : List String) :
    arguments.parseFrom texts = (parse texts).map arguments.merge := by
  induction texts using argumentPairs.induct generalizing arguments with
  | case1 => rfl
  | case2 text =>
    rw [parse, parseFrom, parseFrom]
    cases Flag.ofText? text <;> rfl
  | case3 text value rest ih =>
    rw [parse, parseFrom, parseFrom]
    cases Flag.ofText? text with
    | none => rfl
    | some flag =>
      dsimp only
      rw [set_eq_map_merge arguments]
      cases set {} flag value with
      | error error => rfl
      | ok next =>
        show (arguments.merge next).parseFrom rest = (next.parseFrom rest).map arguments.merge
        rw [ih (arguments.merge next), ih next]
        cases parse rest with
        | error error => rfl
        | ok later => exact congrArg Except.ok (merge_assoc arguments next later)

/-! ## Precedence -/

/-- Each field holds the last value of its flag, read as a mode where it is one. -/
structure HoldsLast (arguments : Arguments) (texts : List String) : Prop where
  /-- The file of the scene. -/
  sceneJson : arguments.sceneJson = (valuesOf .sceneJson texts).getLast?
  /-- The file to write. -/
  output : arguments.output = (valuesOf .output texts).getLast?
  /-- How materials are written. -/
  materialMode : ∀ mode, arguments.materialMode = some mode ↔
    ∃ value, (valuesOf .materialMode texts).getLast? = some value ∧ SpelledAs mode.spellings value
  /-- The material family of glossy shaders. -/
  glossyMode : ∀ mode, arguments.glossyMode = some mode ↔
    ∃ value, (valuesOf .glossyMode texts).getLast? = some value ∧ SpelledAs mode.spellings value
  /-- The directory of the textures. -/
  textureDirectory : arguments.textureDirectory = (valuesOf .textureDirectory texts).getLast?

/-- The last of some values reads as a mode if there is one that does. -/
theorem elim_toOption_eq_some_iff {ε μ : Type} {read : String → Except ε μ} {last : Option String}
    {mode : μ} :
    (last.elim none fun value => (read value).toOption) = some mode ↔
      ∃ value, last = some value ∧ read value = .ok mode := by
  cases last with
  | none => simp
  | some value =>
    simp only [Option.elim_some, Option.some.injEq, exists_eq_left']
    cases read value <;> simp [Except.toOption]

/-- What a command line says about its fields is said by the last values of their flags. -/
theorem holdsLast_of_parse (h : parse texts = .ok result) : result.HoldsLast texts where
  sceneJson := by
    rw [fieldOf_sceneJson.parseFrom h]
    cases (valuesOf .sceneJson texts).getLast? <;> rfl
  output := by
    rw [fieldOf_output.parseFrom h]
    cases (valuesOf .output texts).getLast? <;> rfl
  materialMode := by
    intro mode
    rw [fieldOf_materialMode.parseFrom h]
    simp only [← MaterialMode.parse_eq_ok_iff]
    exact elim_toOption_eq_some_iff
  glossyMode := by
    intro mode
    rw [fieldOf_glossyMode.parseFrom h]
    simp only [← GlossyMode.parse_eq_ok_iff]
    exact elim_toOption_eq_some_iff
  textureDirectory := by
    rw [fieldOf_textureDirectory.parseFrom h]
    cases (valuesOf .textureDirectory texts).getLast? <;> rfl

/-- The settings take each field from the command line, else from the scene, else from the
defaults. -/
structure Decides (arguments : Arguments) (scene : Scene) (settings : Settings) : Prop where
  /-- How materials are written. -/
  materialMode : settings.materialMode =
    (arguments.materialMode.or (scene.settings.map Settings.materialMode)).getD .convert
  /-- The material family of glossy shaders. -/
  glossyMode : settings.glossyMode =
    (arguments.glossyMode.or (scene.settings.map Settings.glossyMode)).getD .roughConductor
  /-- The directory of the textures. -/
  textureDirectory : settings.textureDirectory =
    (arguments.textureDirectory.or (scene.settings.map Settings.textureDirectory)).getD "textures"

theorem decides_settings (arguments : Arguments) (scene : Scene) :
    arguments.Decides scene (arguments.settings scene) := by
  obtain ⟨sceneJson, output, materialMode, glossyMode, textureDirectory⟩ := arguments
  constructor
  · cases materialMode <;> cases h : scene.settings <;> simp [settings, h]
  · cases glossyMode <;> cases h : scene.settings <;> simp [settings, h]
  · cases textureDirectory <;> cases h : scene.settings <;> simp [settings, h]

/-- **The last value of a flag counts, and every pair is checked.** A command line is read exactly
if it consists of whole pairs, with flags in the places of flags and modes behind the flags of
modes; otherwise its error is that of the leftmost pair with a defect. What is read holds in each
field the last value of its flag, and a command line behind it adds its own fields on top. The
settings of a run take each field from the command line, else from the scene, else from the
defaults. -/
theorem parse_precedence (texts : List String) :
    ((∃ result, parse texts = .ok result) ↔ AcceptableArguments texts) ∧
      (∀ error, parse texts = .error error ↔ LeftmostDefect texts error) ∧
      (∀ result, parse texts = .ok result → result.HoldsLast texts ∧
        ∀ later, parse (texts ++ later) = (parse later).map result.merge) ∧
      ∀ (arguments : Arguments) (scene : Scene),
        arguments.Decides scene (arguments.settings scene) := by
  refine ⟨exists_parseFrom_iff {}, fun error => parseFrom_eq_error_iff, ?_, decides_settings⟩
  intro result hresult
  refine ⟨holdsLast_of_parse hresult, fun later => ?_⟩
  rw [parse, parseFrom_append hresult, parseFrom_eq_map_merge]

end Arguments

/-- A command line whose values look like flags, and on which later values replace earlier ones. -/
def entangledArguments : List String :=
  ["--output", "--scene-json", "--glossy-mode", "PHONG", "-o", "-o", "--scene-json", "--output",
    "--glossy-mode", "Metal"]

/-- The entangled command line is read value by value, and another one overrides it. -/
theorem Arguments.parse_precedence_entangled :
    let result : Arguments :=
      { sceneJson := some "--output", output := some "-o", glossyMode := some .metal }
    parse entangledArguments = .ok result ∧
      valuesOf .output entangledArguments = ["--scene-json", "-o"] ∧
      result.HoldsLast entangledArguments ∧
      parse (entangledArguments ++ ["-o", "room.json"]) =
        .ok { result with output := some "room.json" } := by
  intro result
  have hresult : parse entangledArguments =
      .ok { sceneJson := some "--output", output := some "-o", glossyMode := some .metal } := by
    decide +kernel
  obtain ⟨-, -, hread, -⟩ := parse_precedence entangledArguments
  obtain ⟨hlast, hlater⟩ := hread result hresult
  exact ⟨hresult, by decide, hlast, hlater ["-o", "room.json"]⟩

end ShadingExport
