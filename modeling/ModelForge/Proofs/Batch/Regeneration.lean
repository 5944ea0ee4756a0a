import Mathlib.Data.List.Pairwise
import ModelForge.Proofs.Batch.Files
import ModelForge.Proofs.Regeneration

namespace ModelForge

namespace FileSystem

variable {fs fs' : FileSystem} {l : Location} {t : Target} {p : Path} {content : Bytes} {keep : String → Bool}

-- A write is not seen in the listing of a directory by one who does not look at the name of what is written.
theorem filter_childNames_of_write (hw : fs.write p content = .ok fs') (hr : fs.resolve p = .ok t)
    (hk : ∀ n, t.location = l ++ [n] → keep n = false) :
    (fs'.childNames l).filter keep = (fs.childNames l).filter keep := by
  have ⟨_, _, hr', he⟩ := entries_of_write hw
  obtain rfl := Except.ok.inj (hr.symm.trans hr')
  simp only [childNames, List.filter_filterMap, he]
  refine Keyed.filterMap_put fun _ => Option.filter_eq_none_iff.mpr fun n hn => ?_
  simp [hk n (eq_append_of_child hn)]

namespace Rewritten

theorem isModel_eq (h : Rewritten fs fs') (hl : fs.Linkless) : Discovery.isModel fs' p = Discovery.isModel fs p := by
  by_cases hm : p.hasExtension Discovery.modelExtension
  case neg => simp [Discovery.isModel, hm]
  case pos =>
    have hf : fs'.isFile p ↔ fs.isFile p := by
      simp only [isFile_iff]
      constructor
      · rintro ⟨l, content, x, hr⟩
        exact ⟨l, content, x, (h.resolve_iff (not_isOutputLocation (h.linkless hl) hr hm)).mp hr⟩
      · rintro ⟨l, content, x, hr⟩
        exact ⟨l, content, x, h.resolve hr (not_isOutputLocation hl hr hm)⟩
    rw [Discovery.isModel, Discovery.isModel, Bool.eq_iff_iff.mpr hf]

theorem directory (h : Rewritten fs fs') (hr : fs.resolve p = .ok (.entry l .directory)) :
    (fs'.resolve p = .ok (.entry l .directory)) ∧ (∀ a, fs'.allows a l = fs.allows a l) := by
  induction h with
  | refl => exact ⟨hr, fun _ => rfl⟩
  | step _ _ o hi =>
    have hn := o.leaf.ne_of_directory (at?_of_resolve hi.left)
    exact ⟨o.toAgree.resolve hi.left hn, fun a => (o.allows _ hn a).trans (hi.right a)⟩

end Rewritten

end FileSystem

namespace Discovery

variable {fs fs' : FileSystem} {d i : Path} {names names' : List String} {is : List Path} {l : Location}

-- Only the names of models count.
theorem modelsIn_congr (hm : ∀ p, isModel fs' p = isModel fs p)
    (hn : names'.filter (fun n => isModel fs (d.join ⟨n⟩)) = names.filter fun n => isModel fs (d.join ⟨n⟩)) :
    modelsIn fs' d names' = modelsIn fs d names := by
  simp only [modelsIn, List.filter_map, Function.comp_def, hm, filter_mergeSort, hn]

theorem isModel_of_mem_inputs (hd : fs.isDirectory d) (h : inputs fs d = .ok is) (hi : i ∈ is) : isModel fs i := by
  rcases inputs_cases h with ⟨_, _, hn⟩ | ⟨_, rfl⟩
  case inl => simp [hd] at hn
  case inr => exact isModel_of_mem_modelsIn hi

theorem document_eq_of_mem_inputs (h : fs.Rewritten fs') (hl : fs.Linkless) (hd : fs.isDirectory d)
    (hs : inputs fs d = .ok is) (hi : i ∈ is) : Document.read fs' i = Document.read fs i := by
  have ⟨hf, hm⟩ := Bool.and_eq_true_iff.mp (isModel_of_mem_inputs hd hs hi)
  exact h.document_eq hl hf hm

end Discovery

def Outcome.path? : Outcome → Option Path
  | generated file => some file.path
  | _ => none

-- The paths of the files that a report tells of.
def Report.paths (r : Report) : List Path :=
  r.items.filterMap (·.outcome.path?)

theorem Report.paths_eq (r : Report) :
    (r.items.filter (·.outcome.isGenerated)).filterMap (·.outcome.path?) = r.paths := by
  rw [List.filterMap_filter, paths]
  congr 1
  funext ⟨_, outcome⟩
  cases outcome <;> rfl

namespace Batch

variable {p : Pipeline} {task : Task} {w w' : World} {inputs : List Path} {items : List Item} {fs : FileSystem}
  {item : Item} {job job' : Job} {ls ls' : List String} {input : Path} {r : Report}

namespace Generates

theorem path?_eq (g : Generates p task w item job ls) : item.outcome.path? = some job.output := by
  rw [g.outcome]
  rfl

theorem unique (g : Generates p task w item job ls) (g' : Generates p task w item job' ls') :
    (job = job') ∧ (ls = ls') :=
  g.reached.check_unique g'.reached

theorem of_rewritten (answers : p.emitter.OfRequest) (hf : w.files.Rewritten w'.files)
    (hr : Document.read w'.files item.input = Document.read w.files item.input)
    (g : Generates p task w' item job ls) : Generates p task w item job ls where
  outcome := g.outcome
  reached := g.reached.transfer answers hr.symm fun _ => hf.isDirectory_eq.symm

end Generates

-- What is done with an item alone that has come to its write.
theorem process_of_written {l : Language} {directory : Option Path} (keeps : p.emitter.KeepsFiles)
    (h : Stage.Reached p (.generate l directory) w.files input (.write job ls))
    (hw : w.files.write job.output (Text.joined ls) = .ok fs) :
    (process p (.generate l directory) w input).fst = .generated (job.result ls) := by
  have ⟨_, hg⟩ := h.runIn_generateFor keeps hw w.calls
  simp only [process, hg]
  rfl

namespace Replay

-- What is discovered is not changed by what is generated.
theorem inputs_eq (hl : w.files.Linkless) (hd : w.files.isDirectory input) (h : Replay p task w items fs) :
    Discovery.inputs fs input = Discovery.inputs w.files input := by
  have ⟨l, hr⟩ := FileSystem.isDirectory_iff.mp hd
  have ⟨hr', ha⟩ := (h.rewritten hl).directory hr
  rw [Discovery.inputs_of_directory hr, Discovery.inputs_of_directory hr', ha]
  congr 2
  refine Discovery.modelsIn_congr (fun _ => (h.rewritten hl).isModel_eq hl) ?_
  clear hr' ha
  induction h with
  | nil => rfl
  | write before generates write hi =>
    have ⟨t, hr, _⟩ := FileSystem.write_ok write
    have ho := generates.reached.isOutputLocation ((before.rewritten hl).linkless hl) hr
    rw [← hi]
    -- What is written has the name of an output, and no model has one.
    refine FileSystem.filter_childNames_of_write write hr fun n hn => ?_
    rw [Discovery.isModel, (FileSystem.isOutputName_of_append (hn ▸ ho)).join_not_model, Bool.and_false]

-- Outputs that are all different have the content of their items in the end.
theorem settled (nb : Neighbours inputs) (hl : w.files.Linkless) (h : Replay p task w items fs)
    (hin : ∀ item ∈ items, item.input ∈ inputs) (hd : (items.filterMap (·.outcome.path?)).Nodup) :
    ∀ item ∈ items, ∃ job ls, (Generates p task w item job ls) ∧ (fs.Settled job.output (Text.joined ls)) := by
  induction h with
  | nil => simp
  | @write items fs last job ls fs' before generates write hi =>
    rw [List.filterMap_append, List.nodup_append] at hd
    have ⟨hd, _, apart⟩ := hd
    intro item hm
    rcases List.mem_append.mp hm with hm | hm
    case inr =>
      obtain rfl := List.mem_singleton.mp hm
      exact ⟨job, ls, generates, FileSystem.settled_of_write write⟩
    case inl =>
      have ⟨job₁, ls₁, g, hs⟩ := hi (fun item hm => hin item (List.mem_append_left _ hm)) hd item hm
      have ⟨t, hr, _⟩ := FileSystem.write_ok hs
      have ⟨t', hr', _⟩ := FileSystem.write_ok write
      -- The last write goes to another path, so by `output_unique` to another location.
      have hne : job₁.output ≠ job.output := by
        refine apart _ (List.mem_filterMap.mpr ⟨item, hm, g.path?_eq⟩) _ ?_
        simp [generates.path?_eq]
      refine ⟨job₁, ls₁, g, hs.write hr hr' (fun ht => hne ?_) write⟩
      exact g.output_unique nb ((before.rewritten hl).linkless hl) (hin item (List.mem_append_left _ hm))
        (hin last (List.mem_append_right _ (List.mem_singleton_self _))) generates hr hr' ht

-- Where all outputs have their content, nothing happens.
theorem eq_of_settled (h : Replay p task w items fs)
    (hs : ∀ item ∈ items, ∀ job ls, (Generates p task w item job ls) → w.files.Settled job.output (Text.joined ls)) :
    fs = w.files := by
  induction h with
  | nil => rfl
  | @write items fs last job ls fs' before generates write hi =>
    obtain rfl := hi fun item hm => hs item (List.mem_append_left _ hm)
    have settled := hs last (List.mem_append_right _ (List.mem_singleton_self _)) job ls generates
    exact Except.ok.inj (write.symm.trans settled)

end Replay

-- The files after a batch come from the writes of the items that report one.
theorem Ends.replayed (answers : p.emitter.OfRequest) (hl : w.files.Linkless)
    (hi : Discovery.inputs w.files input = .ok inputs) (nodup : inputs.Nodup) : (Ends p task w input r w') →
    ∃ items, (items.Perm (r.items.filter (·.outcome.isGenerated))) ∧ (Replay p task w items w'.files)
  | @Ends.intro _ _ _ _ _ s discovered steps done => by
    obtain rfl := Except.ok.inj (hi.symm.trans discovered)
    have apart := apart_of_inputs hi
    have sound : s.Sound p task w inputs := Progress.sound_start.steps answers hl apart steps
    have ⟨items, logged⟩ := Progress.Logged.start.steps answers hl nodup apart Progress.sound_start steps
    have hn : (s.items inputs).Nodup := by
      rw [sound.items_eq done]
      exact nodup.map fun i j h => (Item.mk.inj h).left
    refine ⟨items, ?_, logged.replay⟩
    -- The log and the report have the same items, each once, though not in the same order.
    refine (List.perm_ext_iff_of_nodup logged.nodup (hn.filter _)).mpr fun item => ?_
    rw [(logged.mem_iff item).trans (Progress.reports_iff done), List.mem_filter]

theorem Ends.input_mem (answers : p.emitter.OfRequest) (hl : w.files.Linkless)
    (hi : Discovery.inputs w.files input = .ok inputs) (ends : Ends p task w input r w') (hm : item ∈ r.items) :
    item.input ∈ inputs := by
  rw [ends.report_eq answers hl hi] at hm
  obtain ⟨i, hi, rfl⟩ := List.mem_map.mp hm
  exact hi

-- A batch over a directory can be done again: it discovers the same inputs and reports the same, and it
-- leaves the files as they are if no two items have written the same one.
theorem Ends.idempotent (answers : p.emitter.OfRequest) (linkless : w.files.Linkless) (wellFormed : w.files.WellFormed)
    (directory : w.files.isDirectory input) :
    ((∃ e, run p task w input = (.error e, w)) ∨ (∃ r w', Ends p task w input r w')) ∧
    (∀ r w', (Ends p task w input r w') →
      (Discovery.inputs w'.files input = Discovery.inputs w.files input) ∧
      (∃ r' w'', Ends p task w' input r' w'') ∧
      (∀ r' w'', (Ends p task w' input r' w'') → (r' = r) ∧ ((r.paths.Nodup) → w''.files = w'.files))) := by
  refine ⟨?_, fun r w' ends => ?_⟩
  case refine_1 =>
    cases hi : Discovery.inputs w.files input with
    | error e => exact .inl ⟨e, by simp only [run, hi]⟩
    | ok inputs => exact .inr ⟨_, _, .sequential hi⟩
  case refine_2 =>
    obtain ⟨inputs, discovered⟩ := ends.discovered
    have nodup := Discovery.nodup_inputs wellFormed discovered
    have nb := neighbours_of_inputs wellFormed discovered
    obtain ⟨items, perm, replay⟩ := ends.replayed answers linkless discovered nodup
    have rewritten := replay.rewritten linkless
    have same := replay.inputs_eq linkless directory
    have discovered' := same.trans discovered
    have reads : ∀ i ∈ inputs, Document.read w'.files i = Document.read w.files i :=
      fun _ => Discovery.document_eq_of_mem_inputs rewritten linkless directory discovered
    refine ⟨same, ⟨_, _, .sequential discovered'⟩, fun r' w'' ends' => ?_⟩
    -- Both runs are told by the files at the start of the first one.
    have report := ends'.report_eq_of_rewritten answers linkless rewritten reads discovered discovered'
    obtain rfl : r = r' := (ends.report_eq answers linkless discovered).trans report.symm
    refine ⟨rfl, fun distinct => ?_⟩
    obtain ⟨items', perm', replay'⟩ := ends'.replayed answers (rewritten.linkless linkless) discovered' nodup
    have hin : ∀ item ∈ items, item.input ∈ inputs :=
      fun _ hm => ends.input_mem answers linkless discovered (List.mem_of_mem_filter (perm.mem_iff.mp hm))
    have hd : (items.filterMap (·.outcome.path?)).Nodup := (perm.filterMap _).nodup_iff.mpr (r.paths_eq ▸ distinct)
    -- The second run has the same items with the same lines, which the first one has settled.
    have settled := replay.settled nb linkless hin hd
    refine replay'.eq_of_settled fun item hm job ls g => ?_
    have hm : item ∈ items := perm.mem_iff.mpr (perm'.mem_iff.mp hm)
    obtain ⟨job₁, ls₁, g₁, hs⟩ := settled item hm
    obtain ⟨rfl, rfl⟩ := g₁.unique (g.of_rewritten answers rewritten (reads _ (hin item hm)))
    exact hs

section TwoModels

open FileSystem Pipeline

def structPipeline : Pipeline := ⟨.bundled, .ofReply fun r => .lines ["struct " ++ r.typeName.text ++ ";"]⟩

variable {n t o : String}

def structJob (n t o : String) : Job :=
  ⟨⟨(⟨"models"⟩ : Path).join ⟨n⟩, userModel⟩, .rust, ⟨t⟩, (⟨"models"⟩ : Path).join ⟨o⟩⟩

theorem reached_twoModels (h : (n = "a.json" ∧ t = "A" ∧ o = "A.rs") ∨ (n = "b.json" ∧ t = "B" ∧ o = "B.rs")) :
    Stage.Reached structPipeline (.generate .rust none) twoModels ((⟨"models"⟩ : Path).join ⟨n⟩)
      (.write (structJob n t o) ["struct " ++ t ++ ";"]) := by
  have hd : Document.read twoModels ((⟨"models"⟩ : Path).join ⟨n⟩) = .ok ⟨(⟨"models"⟩ : Path).join ⟨n⟩, userModel⟩ := by
    have hr := resolve_model_twoModels (h.imp And.left And.left)
    have ha : twoModels.allows .read ["models", n] := rfl
    simp [Document.read, readText, FileSystem.read, hr, ha, decode_smallModel]
  have hv : structPipeline.grammar.validateDocument (structJob n t o).document = .valid :=
    valid_userModel (by rcases h with ⟨rfl, rfl, rfl⟩ | ⟨rfl, rfl, rfl⟩ <;> rfl)
  have hj : Job.of (structJob n t o).document .rust none = .ok (structJob n t o) := by
    rcases h with ⟨rfl, rfl, rfl⟩ | ⟨rfl, rfl, rfl⟩ <;> rfl
  have hq : (structJob n t o).request = .ok ⟨⟨t⟩, .rust, userModel⟩ := by
    rcases h with ⟨rfl, rfl, rfl⟩ | ⟨rfl, rfl, rfl⟩ <;> rfl
  have he : (structJob n t o).directory = ⟨"models"⟩ := by
    rcases h with ⟨rfl, rfl, rfl⟩ | ⟨rfl, rfl, rfl⟩ <;> rfl
  exact .write (.check (.emit hd hv rfl hj) hq rfl) (he ▸ isDirectory_iff.mpr ⟨_, resolve_twoModels⟩)

theorem write_twoModels (h : o = "A.rs" ∨ o = "B.rs") (content : Bytes) :
    twoModels.write ((⟨"models"⟩ : Path).join ⟨o⟩) content = .ok (twoModels.create ["models", o] content) := by
  have hf : twoModels.resolve ((⟨"models"⟩ : Path).join ⟨o⟩) = .ok (.free ["models", o]) := by
    have w : Walks twoModels linkLimit [] ["models", o] (.free ["models", o]) := by
      refine .down ⟨rfl, rfl⟩ ⟨by decide, by decide, by decide⟩ rfl (by simp) ?_
      rcases h with rfl | rfl <;> exact .free ⟨rfl, rfl⟩ ⟨by decide, by decide, by decide⟩ rfl
    rcases h with rfl | rfl <;> exact resolve_ok_iff.mpr ⟨by decide, by decide, by decide, w⟩
  have ha : twoModels.allows .write ["models"] := rfl
  simp [FileSystem.write, hf, ha]

-- Each of the two models has an output of its own.
theorem process_twoModels (h : (n = "a.json" ∧ t = "A" ∧ o = "A.rs") ∨ (n = "b.json" ∧ t = "B" ∧ o = "B.rs")) :
    (process structPipeline (.generate .rust none) ⟨twoModels, []⟩ ((⟨"models"⟩ : Path).join ⟨n⟩)).fst =
      .generated ((structJob n t o).result ["struct " ++ t ++ ";"]) :=
  process_of_written (fun _ _ => rfl) (reached_twoModels h) (write_twoModels (h.imp (·.right.right) (·.right.right)) _)

theorem Ends.idempotent_twoModels :
    let w : World := ⟨twoModels, []⟩
    (structPipeline.emitter.OfRequest) ∧ (w.files.Linkless) ∧ (w.files.WellFormed) ∧ (w.files.isDirectory ⟨"models"⟩) ∧
      (∃ r w' w'', (Ends structPipeline (.generate .rust none) w ⟨"models"⟩ r w') ∧
        (r.paths = [⟨"models/A.rs"⟩, ⟨"models/B.rs"⟩]) ∧
        (Ends structPipeline (.generate .rust none) w' ⟨"models"⟩ r w'') ∧ (w''.files = w'.files)) := by
  intro w
  have answers : structPipeline.emitter.OfRequest := ⟨_, rfl⟩
  have directory : w.files.isDirectory ⟨"models"⟩ := isDirectory_iff.mpr ⟨_, resolve_twoModels⟩
  have ⟨some_end, again⟩ := @Ends.idempotent structPipeline (.generate .rust none) w ⟨"models"⟩ answers
    linkless_twoModels wellFormed_twoModels directory
  have ⟨r, w', ends⟩ : ∃ r w', Ends structPipeline (.generate .rust none) w ⟨"models"⟩ r w' :=
    ⟨_, _, .sequential inputs_twoModels⟩
  have ⟨_, ⟨r', w'', ends'⟩, same⟩ := again r w' ends
  have ⟨hr, files⟩ := same r' w'' ends'
  have paths : r.paths = [⟨"models/A.rs"⟩, ⟨"models/B.rs"⟩] := by
    have ha := process_twoModels (.inl ⟨rfl, rfl, rfl⟩)
    have hb := process_twoModels (.inr ⟨rfl, rfl, rfl⟩)
    rw [ends.report_eq answers linkless_twoModels inputs_twoModels]
    exact congrArg₂ (fun a b => [a, b].filterMap (·.path?)) ha hb
  exact ⟨answers, linkless_twoModels, wellFormed_twoModels, directory, r, w', w'', ends, paths, hr ▸ ends',
    files (by rw [paths]; decide)⟩

end TwoModels

end Batch

end ModelForge
