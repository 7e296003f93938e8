import LayoutCipher.Settings.Basic

/-!
# Overlays of settings

Settings are built up in steps.  Each step lays something over what is there: other settings, of
which every field counts that is set, or an environment, of which only variables with a text count
and which knows nothing of layouts.  However many steps there are, and in whatever order the two
kinds come, a field ends up with what the last step wrote that wrote to it.
-/

namespace LayoutCipher.Settings

/-! ## Fields -/

inductive Field where
  | logLevel
  | defaultCipher
  | layoutRows

def Field.Value : Field → Type
  | .layoutRows => List String
  | _ => String

def get (settings : Settings) : (field : Field) → Option field.Value
  | .logLevel => settings.logLevel
  | .defaultCipher => settings.defaultCipher
  | .layoutRows => settings.layoutRows

variable {field : Field}

theorem ext_get {first second : Settings} (same : ∀ field, first.get field = second.get field) :
    first = second := by
  cases first
  cases second
  exact (Settings.mk.injEq ..).mpr ⟨same .logLevel, same .defaultCipher, same .layoutRows⟩

@[simp]
theorem get_unset : unset.get field = none := by
  cases field <;> rfl

/-- Laying settings over others treats every field in the same way. -/
@[simp]
theorem get_merge (lower upper : Settings) :
    (lower.merge upper).get field = (upper.get field).or (lower.get field) := by
  cases field <;> rfl

theorem merge_assoc (lower middle upper : Settings) :
    (lower.merge middle).merge upper = lower.merge (middle.merge upper) :=
  ext_get fun field => by simp only [get_merge, Option.or_assoc]

theorem unset_merge (settings : Settings) : unset.merge settings = settings :=
  ext_get fun field => by simp

theorem merge_unset (settings : Settings) : settings.merge unset = settings :=
  ext_get fun field => by simp

theorem merge_merge_self (lower upper : Settings) :
    (lower.merge upper).merge upper = lower.merge upper :=
  ext_get fun field => by
    rw [get_merge, get_merge, ← Option.or_assoc, Option.or_self]

/-! ## Steps -/

inductive Overlay where
  | merge (upper : Settings)
  | mergeEnvironment (environment : Environment)

namespace Overlay

variable {value : field.Value}

def apply (lower : Settings) : Overlay → Settings
  | .merge upper => lower.merge upper
  | .mergeEnvironment environment => lower.mergeEnvironment environment

def applyAll (start : Settings) (overlays : List Overlay) : Settings :=
  overlays.foldl apply start

/-- A step writes a value to a field.  Settings write all that they hold, empty texts as well.  A
variable writes its text, unless that is empty, and there is none for the layout. -/
inductive Writes : Overlay → (field : Field) → field.Value → Prop where
  | merge {upper : Settings} {field : Field} {value : field.Value}
      (held : upper.get field = some value) : Writes (.merge upper) field value
  | level {environment : Environment} {value : String}
      (present : environment "KEYCIPHER_LOG_LEVEL" = some value) (nonempty : value ≠ "") :
      Writes (.mergeEnvironment environment) .logLevel value
  | cipher {environment : Environment} {value : String}
      (present : environment "KEYCIPHER_CIPHER" = some value) (nonempty : value ≠ "") :
      Writes (.mergeEnvironment environment) .defaultCipher value

def Touches (overlay : Overlay) (field : Field) : Prop :=
  ∃ value, overlay.Writes field value

/-- One of the steps writes the value to the field, and none behind it writes to the field. -/
def WritesLast (overlays : List Overlay) (field : Field) (value : field.Value) : Prop :=
  ∃ before overlay behind, overlays = before ++ overlay :: behind ∧ overlay.Writes field value ∧
    ∀ later ∈ behind, ¬ later.Touches field

def written : Overlay → Settings
  | .merge upper => upper
  | .mergeEnvironment environment => ofEnvironment environment

theorem apply_eq_merge (overlay : Overlay) (lower : Settings) :
    overlay.apply lower = lower.merge overlay.written := by
  cases overlay <;> rfl

theorem setting?_eq_some_iff {environment : Environment} {name value : String} :
    setting? environment name = some value ↔ environment name = some value ∧ value ≠ "" := by
  simp [setting?, Option.filter_eq_some_iff]

theorem writes_iff {overlay : Overlay} :
    overlay.Writes field value ↔ overlay.written.get field = some value := by
  constructor
  · intro writes
    cases writes with
    | merge held => exact held
    | level present nonempty => exact setting?_eq_some_iff.mpr ⟨present, nonempty⟩
    | cipher present nonempty => exact setting?_eq_some_iff.mpr ⟨present, nonempty⟩
  · intro held
    cases overlay with
    | merge upper => exact .merge held
    | mergeEnvironment environment =>
        cases field with
        | logLevel =>
            obtain ⟨present, nonempty⟩ := setting?_eq_some_iff.mp held
            exact .level present nonempty
        | defaultCipher =>
            obtain ⟨present, nonempty⟩ := setting?_eq_some_iff.mp held
            exact .cipher present nonempty
        | layoutRows => cases held

theorem not_touches_iff {overlay : Overlay} :
    ¬ overlay.Touches field ↔ overlay.written.get field = none := by
  simp only [Touches, writes_iff, Option.eq_none_iff_forall_ne_some, not_exists, ne_eq]

/-- Behind the steps stands for every field the last value written, or else what was there. -/
theorem get_applyAll (start : Settings) (overlays : List Overlay) :
    (applyAll start overlays).get field =
      (overlays.reverse.findSome? fun overlay => overlay.written.get field).or
        (start.get field) := by
  induction overlays generalizing start with
  | nil => rfl
  | cons overlay rest ih =>
      have stepped : applyAll start (overlay :: rest) = applyAll (overlay.apply start) rest := rfl
      rw [stepped, ih, apply_eq_merge, get_merge, List.reverse_cons, List.findSome?_append,
        ← Option.or_assoc]
      simp

theorem writesLast_iff {overlays : List Overlay} :
    WritesLast overlays field value ↔
      (overlays.reverse.findSome? fun overlay => overlay.written.get field) = some value := by
  simp only [WritesLast, writes_iff, not_touches_iff, List.findSome?_eq_some_iff]
  constructor
  · rintro ⟨before, overlay, behind, rfl, held, quiet⟩
    exact ⟨behind.reverse, overlay, before.reverse, by simp, held, by simpa using quiet⟩
  · rintro ⟨behind, overlay, before, split, held, quiet⟩
    refine ⟨before.reverse, overlay, behind.reverse, ?_, held, by simpa using quiet⟩
    rw [← List.reverse_inj, split]
    simp

theorem forall_not_touches_iff {overlays : List Overlay} :
    (∀ overlay ∈ overlays, ¬ overlay.Touches field) ↔
      (overlays.reverse.findSome? fun overlay => overlay.written.get field) = none := by
  simp [not_touches_iff, List.findSome?_eq_none_iff]

theorem apply_comm {first second : Overlay}
    (disjoint : ∀ field, ¬ (first.Touches field ∧ second.Touches field)) (start : Settings) :
    second.apply (first.apply start) = first.apply (second.apply start) := by
  simp only [apply_eq_merge]
  refine ext_get fun field => ?_
  simp only [get_merge]
  by_cases touched : first.Touches field
  · have quiet := not_touches_iff.mp fun other => disjoint field ⟨touched, other⟩
    rw [quiet, Option.none_or, Option.none_or]
  · rw [not_touches_iff.mp touched, Option.none_or, Option.none_or]

/-- Behind any sequence of steps a field has the value of the last step that writes to it, and
without such a step the value it had.  So laying settings over settings is associative, settings
that leave everything open change nothing on either side, a step that is repeated does nothing
more, and two steps that write to different fields may change places. -/
theorem last_overlay_wins :
    (∀ (start : Settings) (overlays : List Overlay) (field : Field) (value : field.Value),
      (applyAll start overlays).get field = some value ↔
        WritesLast overlays field value ∨
          (∀ overlay ∈ overlays, ¬ overlay.Touches field) ∧ start.get field = some value) ∧
    (∀ lower middle upper : Settings,
      (lower.merge middle).merge upper = lower.merge (middle.merge upper)) ∧
    (∀ settings : Settings, unset.merge settings = settings ∧ settings.merge unset = settings ∧
      settings.merge settings = settings) ∧
    (∀ (overlay : Overlay) (start : Settings),
      overlay.apply (overlay.apply start) = overlay.apply start) ∧
    ∀ first second : Overlay, (∀ field, ¬ (first.Touches field ∧ second.Touches field)) →
      ∀ start, second.apply (first.apply start) = first.apply (second.apply start) := by
  refine ⟨fun start overlays field value => ?_, merge_assoc, fun settings => ?_,
    fun overlay start => ?_, fun first second => apply_comm⟩
  · rw [get_applyAll, writesLast_iff, forall_not_touches_iff, Option.or_eq_some_iff]
  · refine ⟨unset_merge settings, merge_unset settings, ?_⟩
    simpa only [unset_merge] using merge_merge_self unset settings
  · simp only [apply_eq_merge, merge_merge_self]

/-- A file with an empty level and a cipher. -/
def sampleFile : Overlay :=
  .merge ⟨some "", some "H", none⟩

/-- An environment with an empty level and a cipher. -/
def sampleShell : Overlay :=
  .mergeEnvironment fun name =>
    if name = "KEYCIPHER_LOG_LEVEL" then some ""
    else if name = "KEYCIPHER_CIPHER" then some "V"
    else none

/-- A file with a layout. -/
def sampleKeys : Overlay :=
  .merge ⟨none, none, some ["AB"]⟩

/-- The empty level of the file stays, since the empty variable does not count; the cipher of the
environment wins, and environment and layout may change places. -/
theorem last_overlay_wins_sample :
    (applyAll ⟨some "warn", none, none⟩ [sampleFile, sampleShell, sampleKeys]).get .logLevel =
        some "" ∧
      (applyAll ⟨some "warn", none, none⟩ [sampleFile, sampleShell, sampleKeys]).get
        .defaultCipher = some "V" ∧
      (∀ field, ¬ (sampleShell.Touches field ∧ sampleKeys.Touches field)) ∧
      sampleKeys.apply (sampleShell.apply unset) = sampleShell.apply (sampleKeys.apply unset) := by
  obtain ⟨values, _, _, _, commute⟩ := last_overlay_wins
  have noLevel : ¬ sampleShell.Touches .logLevel := not_touches_iff.mpr rfl
  have noRows : ¬ sampleShell.Touches .layoutRows := not_touches_iff.mpr rfl
  have onlyRows (field : Field) (other : sampleKeys.written.get field = none) :
      ¬ sampleKeys.Touches field := not_touches_iff.mpr other
  have disjoint : ∀ field, ¬ (sampleShell.Touches field ∧ sampleKeys.Touches field) := by
    rintro field ⟨byShell, byKeys⟩
    cases field with
    | logLevel => exact noLevel byShell
    | defaultCipher => exact onlyRows .defaultCipher rfl byKeys
    | layoutRows => exact noRows byShell
  refine ⟨(values ..).mpr (.inl ?_), (values ..).mpr (.inl ?_), disjoint,
    commute sampleShell sampleKeys disjoint unset⟩
  · refine ⟨[], sampleFile, [sampleShell, sampleKeys], rfl, .merge rfl, ?_⟩
    simpa using ⟨noLevel, onlyRows .logLevel rfl⟩
  · refine ⟨[sampleFile], sampleShell, [sampleKeys], rfl, .cipher rfl (by decide), ?_⟩
    simpa using onlyRows .defaultCipher rfl

end Overlay

end LayoutCipher.Settings
