import IconCompiler.GeneratedFile

/-! # Files that are due

    A file that is due is looked up first (`DueFile.Held`).  If it holds its
    content nothing happens; otherwise it is written in three steps, of which
    each one has to succeed (`replace_eq_ok`), or, where nothing may be written,
    found stale.  `Provided` is the run over several such files. -/

namespace IconCompiler

/-- A file that is due: where it goes and what it has to hold. -/
structure DueFile where
  path : String
  content : String
  deriving DecidableEq

/-- The file holds its content already, as told by digests. -/
def DueFile.Held (workspace : Workspace) (file : DueFile) : Prop :=
  GeneratedFile.holds workspace file.path file.content = .ok true

/-- Files written one after the other, each one unless it holds its content. -/
inductive Provided : Workspace → List DueFile → Workspace → Prop
  | nil (workspace : Workspace) : Provided workspace [] workspace
  | cons {workspace next final : Workspace} {file : DueFile} {files : List DueFile}
      {state : FileState} :
      GeneratedFile.update workspace false file.path file.content = (.ok state, next) →
      Provided next files final → Provided workspace (file :: files) final

theorem Provided.append {first second third : Workspace} {files more : List DueFile}
    (h : Provided first files second) (hmore : Provided second more third) :
    Provided first (files ++ more) third := by
  induction h with
  | nil workspace => exact hmore
  | cons hupdate _ ih => exact .cons hupdate (ih hmore)

/-! ## One file -/

namespace GeneratedFile

theorem exists_holds_eq_ok (workspace : Workspace) (path content : String) :
    ∃ answer, holds workspace path content = .ok answer := by
  rw [holds]
  by_cases hfile : workspace.isFile path = true
  · rw [if_pos hfile]
    -- a path that leads to a file can be read
    rw [Workspace.isFile] at hfile
    split at hfile
    · next location bytes hentry =>
        have hread : workspace.read path = .ok bytes := by
          rw [Workspace.read, hentry]
          rfl
        rw [hread]
        exact ⟨_, rfl⟩
    · exact absurd hfile Bool.false_ne_true
  · rw [if_neg hfile]
    exact ⟨false, rfl⟩

theorem holds_of_not_held {workspace : Workspace} {file : DueFile} (h : ¬ file.Held workspace) :
    holds workspace file.path file.content = .ok false := by
  obtain ⟨answer, hanswer⟩ := exists_holds_eq_ok workspace file.path file.content
  cases answer with
  | false => exact hanswer
  | true => exact absurd hanswer h

theorem update_of_held {workspace : Workspace} {file : DueFile} (h : file.Held workspace)
    (check : Bool) :
    update workspace check file.path file.content = (.ok .unchanged, workspace) := by
  rw [update, show holds workspace file.path file.content = .ok true from h]

/-- Where nothing may be written, a file is found unchanged or stale. -/
theorem exists_update_check (workspace : Workspace) (file : DueFile) :
    ∃ state, update workspace true file.path file.content = (.ok state, workspace)
      ∧ ((state = .unchanged ∧ file.Held workspace)
        ∨ (state = .wouldChange ∧ ¬ file.Held workspace)) := by
  by_cases hheld : file.Held workspace
  · exact ⟨.unchanged, update_of_held hheld true, .inl ⟨rfl, hheld⟩⟩
  · refine ⟨.wouldChange, ?_, .inr ⟨rfl, hheld⟩⟩
    rw [update, holds_of_not_held hheld]
    rfl

theorem settle_eq_ok {workspace next : Workspace} {plan : Plan} {path : String}
    {state : FileState} (h : settle workspace plan path = (.ok state, next)) :
    state = .written ∧ workspace.rename plan.temporary path = .ok next := by
  rw [settle] at h
  split at h
  · next renamed hrename =>
      obtain ⟨hstate, rfl⟩ := Prod.mk.inj h
      exact ⟨(Except.ok.inj hstate).symm, hrename⟩
  · split at h <;> exact absurd (Prod.mk.inj h).1 (by simp)

/-- When a file can be replaced: its directory can be made, the temporary file
    can be written, and that can be moved into place. -/
theorem replace_eq_ok {workspace next : Workspace} {plan : Plan} {path content : String}
    {state : FileState} (h : replace workspace plan path content = (.ok state, next)) :
    state = .written ∧ ∃ made written,
      workspace.makeDirectories plan.directory = (.ok (), made)
        ∧ made.write plan.temporary content.toUTF8 = .ok written
        ∧ written.rename plan.temporary path = .ok next := by
  rw [replace] at h
  split at h
  · exact absurd (Prod.mk.inj h).1 (by simp)
  · next made hmake =>
      split at h
      · exact absurd (Prod.mk.inj h).1 (by simp)
      · next written hwrite =>
          obtain ⟨hstate, hrename⟩ := settle_eq_ok h
          exact ⟨hstate, made, written, hmake, hwrite, hrename⟩

/-- A file that holds its content is left alone, any other is written as planned. -/
theorem update_eq_ok {workspace next : Workspace} {path content : String} {state : FileState}
    (h : update workspace false path content = (.ok state, next)) :
    (state = .unchanged ∧ DueFile.Held workspace ⟨path, content⟩ ∧ next = workspace)
      ∨ (state = .written ∧ ¬ DueFile.Held workspace ⟨path, content⟩
        ∧ ∃ steps, plan path = .ok steps
          ∧ replace workspace steps path content = (.ok .written, next)) := by
  by_cases hheld : DueFile.Held workspace ⟨path, content⟩
  · have hsame := update_of_held hheld false
    rw [hsame] at h
    obtain ⟨hstate, rfl⟩ := Prod.mk.inj h
    exact .inl ⟨(Except.ok.inj hstate).symm, hheld, rfl⟩
  · have hstale := holds_of_not_held hheld
    rw [update, hstale] at h
    dsimp only at h
    rw [if_neg Bool.false_ne_true] at h
    split at h
    · exact absurd (Prod.mk.inj h).1 (by simp)
    · next steps hplan =>
        obtain ⟨rfl, -⟩ := replace_eq_ok h
        exact .inr ⟨rfl, hheld, steps, hplan, h⟩

end GeneratedFile

theorem Provided.eq_of_held {workspace final : Workspace} {files : List DueFile}
    (h : Provided workspace files final) (hheld : ∀ file ∈ files, file.Held workspace) :
    final = workspace := by
  induction h with
  | nil workspace => rfl
  | @cons workspace next final file files state hupdate _ ih =>
      obtain ⟨hfirst, hrest⟩ := List.forall_mem_cons.mp hheld
      rw [GeneratedFile.update_of_held hfirst] at hupdate
      obtain ⟨-, rfl⟩ := Prod.mk.inj hupdate
      exact ih hrest

end IconCompiler
