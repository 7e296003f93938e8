import LayoutCipher.Failure.Report

/-!
# Wrapped errors

An error is wrapped in one context after another, and each context becomes the outermost layer.
The exit status and the heading of a registered failure look through all of them.  The causes begin
below the outermost layer, wherever that is: so the failure itself is among them once there is a
context, and the last context never is.
-/

namespace LayoutCipher.Report

/-! ## Contexts -/

def addContext (report : Report) (context : String) : Report :=
  { report with contexts := report.contexts ++ [context] }

def addContexts (report : Report) (contexts : List String) : Report :=
  contexts.foldl addContext report

def ofForeignError (error : ForeignError) : Report :=
  ⟨.foreign error, []⟩

/-- A context becomes the outermost layer, and the others stay as they are. -/
theorem layers_addContext (report : Report) (context : String) :
    (report.addContext context).layers = context :: report.layers := by
  simp [layers, addContext]

theorem root_addContexts (report : Report) (contexts : List String) :
    (report.addContexts contexts).root = report.root := by
  induction contexts generalizing report with
  | nil => rfl
  | cons context rest ih => exact ih (report.addContext context)

theorem layers_addContexts (report : Report) (contexts : List String) :
    (report.addContexts contexts).layers = contexts.reverse ++ report.layers := by
  induction contexts generalizing report with
  | nil => rfl
  | cons context rest ih =>
      rw [addContexts, List.foldl_cons, ← addContexts, ih, layers_addContext, List.reverse_cons,
        List.append_assoc, List.singleton_append]

/-! ## Lines -/

/-- The layers below the outermost one, for an error with contexts and with errors that led to
it: the contexts from the last but one to the first and the error itself, if there is a context at
all, and then what led to the error. -/
def below (contexts : List String) (text : String) (sources : List String) : List String :=
  contexts.dropLast.reverse ++ (if contexts = [] then [] else [text]) ++ sources

/-- What is written behind the heading about the layers below the outermost one. -/
def causesText (contexts : List String) (text : String) (sources : List String) : String :=
  if contexts.length + sources.length = 0 then ""
  else "\nCaused by:" ++ String.join ((below contexts text sources).map ("\n  " ++ ·))

theorem tail_reverse_append (contexts : List String) (text : String) (sources : List String) :
    (contexts.reverse ++ text :: sources).tail = below contexts text sources := by
  rcases contexts.eq_nil_or_concat with rfl | ⟨inner, outermost, rfl⟩
  · rfl
  · simp [below]

theorem below_eq_nil_iff {contexts : List String} {text : String} {sources : List String} :
    below contexts text sources = [] ↔ contexts.length + sources.length = 0 := by
  cases contexts <;> cases sources <;> simp [below]

theorem intercalate_cons_eq_join (separator first : String) (rest : List String) :
    separator.intercalate (first :: rest) = first ++ String.join (rest.map (separator ++ ·)) := by
  induction rest generalizing first with
  | nil => simp
  | cons second rest ih => simp [ih, String.append_assoc]

theorem heading_ne_nil (report : Report) : report.heading ≠ [] := by
  unfold heading
  cases report.root <;> simp

theorem render_zero (report : Report) : report.render 0 = "\n".intercalate report.heading := by
  simp [render]

/-- A report with causes is the one without them, and a line more for each cause. -/
theorem render_of_pos (report : Report) {verbosity : Nat} (verbose : 1 ≤ verbosity) :
    report.render verbosity = report.render 0 ++ String.join (report.causes.map ("\n" ++ ·)) := by
  obtain ⟨first, rest, lines⟩ := List.exists_cons_of_ne_nil report.heading_ne_nil
  rw [render_zero, render, if_neg (Nat.ne_of_gt verbose), lines, List.cons_append,
    intercalate_cons_eq_join, intercalate_cons_eq_join, List.map_append, String.join_append,
    String.append_assoc]

theorem join_causes {report : Report} {contexts : List String} {text : String}
    {sources : List String} (layered : report.layers = contexts.reverse ++ text :: sources) :
    String.join (report.causes.map ("\n" ++ ·)) = causesText contexts text sources := by
  have indented (layer : String) : "\n" ++ ("  " ++ layer) = "\n  " ++ layer := by
    rw [← String.append_assoc]
    rfl
  rw [causes, layered, tail_reverse_append, causesText]
  split
  · next empty =>
      rw [if_pos (below_eq_nil_iff.mp empty)]
      rfl
  · next nonempty =>
      rw [if_neg (mt below_eq_nil_iff.mpr nonempty), List.map_cons, String.join_cons, List.map_map]
      simp only [Function.comp_def, indented]
      rfl

theorem render_addContexts_of_pos (report : Report) {text : String} {sources : List String}
    (layered : report.layers = text :: sources) (contexts : List String) {verbosity : Nat}
    (verbose : 1 ≤ verbosity) :
    (report.addContexts contexts).render verbosity =
      (report.addContexts contexts).render 0 ++ causesText contexts text sources := by
  rw [render_of_pos _ verbose, join_causes (layered ▸ layers_addContexts report contexts)]

theorem display_addContexts (report : Report) {text : String} {sources : List String}
    (layered : report.layers = text :: sources) (contexts : List String) :
    (report.addContexts contexts).display = contexts.getLast?.getD text := by
  rw [display, layers_addContexts, layered]
  rcases contexts.eq_nil_or_concat with rfl | ⟨inner, outermost, rfl⟩ <;> simp

/-- Contexts change neither the exit status of a registered failure nor its text without causes.
With causes the text goes on with the layers below the outermost one, from the last context but one
inwards, each on a line of its own, unless there are none.  The same holds for any other error,
except that its text opens with the outermost layer, and its exit status is 1. -/
theorem render_addContexts (contexts : List String) :
    (∀ failure : Failure,
      ((ofFailure failure).addContexts contexts).exitStatus = failure.exitStatus ∧
      ((ofFailure failure).addContexts contexts).render 0 = (ofFailure failure).render 0 ∧
      (ofFailure failure).render 0 = "Error: " ++ failure.userMessage ++ "\n  " ++
        Failure.codeTag failure.code ++ " " ++ Failure.describeCode failure.code ∧
      ∀ verbosity, 1 ≤ verbosity →
        ((ofFailure failure).addContexts contexts).render verbosity =
          (ofFailure failure).render 0 ++
            causesText contexts failure.display failure.sources) ∧
    ∀ error : ForeignError,
      ((ofForeignError error).addContexts contexts).exitStatus = 1 ∧
      ((ofForeignError error).addContexts contexts).render 0 =
        "Error: " ++ contexts.getLast?.getD error.text ∧
      ∀ verbosity, 1 ≤ verbosity →
        ((ofForeignError error).addContexts contexts).render verbosity =
          "Error: " ++ contexts.getLast?.getD error.text ++
            causesText contexts error.text error.sources := by
  constructor
  · intro failure
    have root := root_addContexts (ofFailure failure) contexts
    have same : ((ofFailure failure).addContexts contexts).render 0 =
        (ofFailure failure).render 0 := by
      rw [render_zero, render_zero, heading, heading, root]
      rfl
    refine ⟨by rw [exitStatus, root]; rfl, same, ?_, fun verbosity verbose => ?_⟩
    · simp only [render_zero, heading, ofFailure, String.intercalate_cons_cons,
        String.intercalate_singleton, String.append_assoc]
      rfl
    · rw [render_addContexts_of_pos _ rfl contexts verbose, same]
  · intro error
    have root := root_addContexts (ofForeignError error) contexts
    have shown := display_addContexts (ofForeignError error) rfl contexts
    have opening : ((ofForeignError error).addContexts contexts).render 0 =
        "Error: " ++ contexts.getLast?.getD error.text := by
      rw [render_zero, heading, root, shown]
      rfl
    refine ⟨by rw [exitStatus, root]; rfl, opening, fun verbosity verbose => ?_⟩
    rw [render_addContexts_of_pos _ rfl contexts verbose, opening]

/-- Of two contexts around a failure the first is a cause and the second is not, and the failure
stands between the first and what led to it.  Without a context the error itself is no cause. -/
theorem render_addContexts_twice :
    ((ofFailure (.ofFault .emptyInput)).addContexts ["reading", "running"]).exitStatus = 8 ∧
      1 ≤ 2 ∧
      ((ofFailure (.ofFault .emptyInput)).addContexts ["reading", "running"]).render 2 =
        "Error: Invalid cipher or input: Input cannot be empty\n  [E7007] Input is empty\n" ++
          "Caused by:\n  reading\n  [E7007] Validation error: Input cannot be empty\n" ++
          "  Input cannot be empty" ∧
      ((ofForeignError ⟨"disk full", ["write failed"]⟩).addContexts []).render 1 =
        "Error: disk full\nCaused by:\n  write failed" := by
  obtain ⟨registered, _⟩ := render_addContexts ["reading", "running"]
  obtain ⟨_, foreign⟩ := render_addContexts []
  obtain ⟨status, _, heading, causes⟩ := registered (.ofFault .emptyInput)
  obtain ⟨_, _, causes'⟩ := foreign ⟨"disk full", ["write failed"]⟩
  refine ⟨status, Nat.le_succ 1, ?_, ?_⟩
  · rw [causes 2 (Nat.le_succ 1), heading]
    decide +kernel
  · rw [causes' 1 (Nat.le_refl 1)]
    decide +kernel

end LayoutCipher.Report
