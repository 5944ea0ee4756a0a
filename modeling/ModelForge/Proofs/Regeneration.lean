import ModelForge.Proofs.Batch.Stage
import ModelForge.Proofs.Discovery
import ModelForge.Proofs.FileSystem.Settled

namespace ModelForge

namespace Document

variable {fs : FileSystem} {p : Path} {d : Document}

theorem resolve_of_read (h : read fs p = .ok d) : ∃ l content x,
    (fs.resolve p = .ok (.entry l (.file content x))) ∧ (fs.allows .read l) := by
  simp only [read, FileSystem.readText, FileSystem.read] at h
  rcases hr : fs.resolve p with _ | ⟨l, e⟩ | _ <;> simp only [hr, reduceCtorEq] at h
  by_cases ha : fs.allows .read l
  case neg => simp [ha] at h
  case pos => cases e <;> simp_all

theorem read_congr {fs' : FileSystem} (h : fs'.read p = fs.read p) : read fs' p = read fs p := by
  simp only [read, FileSystem.readText, h]

end Document

-- A document in JSON is validated as its text.
theorem Grammar.validateDocument_json {g : Grammar} {d : Document} (h : d.format = .json) :
    g.validateDocument d = g.validateText d.raw := by
  delta validateDocument validateText Document.parsed
  rw [h]
  cases Json.parse d.raw <;> rfl

theorem TypeName.fileName?_of_ofPath? {p : Path} {name : TypeName} (h : ofPath? p = some name) :
    ∃ n, p.fileName? = some n := by
  simp only [ofPath?, Path.stem?] at h
  cases hn : p.fileName? with
  | none => simp [hn] at h
  | some n => exact ⟨n, rfl⟩

namespace Output

variable {fs : FileSystem} {input : Path}

-- Without a directory given, outputs lie beside the input.
theorem locate_directory_none {name : List Char} (h : input.fileName? = some name) :
    fs.locate input = fs.locate (directory input none) ++ [String.ofList name] := by
  obtain ⟨q, hp, hs, ha⟩ := Path.parent?_of_fileName? h
  have ⟨hs', ha'⟩ : ((directory input none).steps = q.steps) ∧ ((directory input none).isAbsolute = q.isAbsolute) := by
    simp only [directory, hp]
    split
    case isFalse => exact ⟨rfl, rfl⟩
    case isTrue he =>
      obtain rfl : q = ⟨""⟩ := congrArg Path.mk (String.isEmpty_iff.mp he)
      exact ⟨rfl, rfl⟩
  have hn : Path.IsName (String.ofList name).toList := by simpa using Path.isName_of_fileName? h
  simp only [FileSystem.locate_eq, FileSystem.startOf, hs, hs', ha, ha', List.map_append, List.foldl_append,
    List.map_cons, List.map_nil, List.foldl_cons, List.foldl_nil, FileSystem.descend, hn.text_ne_dot,
    hn.text_ne_dots, if_false]

end Output

namespace Batch.Stage.Reached

open Batch

variable {p : Pipeline} {task : Task} {fs fs' : FileSystem} {input : Path} {stage : Stage} {job job' : Job}
  {ls ls' : List String} {l : Language} {directory : Option Path} {w w' : World} {file : WrittenFile}

-- Where an item has come with some files it comes with others, if its document and the directories are the same.
theorem transfer (answers : p.emitter.OfRequest) (hr : Document.read fs' input = Document.read fs input)
    (hd : ∀ d, fs'.isDirectory d = fs.isDirectory d) (h : Reached p task fs input stage) :
    Reached p task fs' input stage := by
  induction h with
  | read => exact .read
  | validate hd => exact .validate (hr.trans hd)
  | emit hd hv ht hj => exact .emit (hr.trans hd) hv ht hj
  | check _ hq hl hi => exact .check hi hq (answers.reply_eq _ _ _ ▸ hl)
  | write _ hw hi => exact .write hi ((hd _).trans hw)

-- An item has one job, and one reply to it.
theorem check_unique : (Reached p task fs input (.check job ls)) → (Reached p task fs input (.check job' ls')) →
    (job = job') ∧ (ls = ls')
  | .check (.emit hd _ ht hj) hq hl, .check (.emit hd' _ ht' hj') hq' hl' => by
    subst ht
    cases ht'
    obtain rfl := Except.ok.inj (hd.symm.trans hd')
    obtain rfl := Except.ok.inj (hj.symm.trans hj')
    obtain rfl := Except.ok.inj (hq.symm.trans hq')
    obtain rfl := Reply.lines.inj (hl.symm.trans hl')
    exact ⟨rfl, rfl⟩

-- What has come to its write is valid.
theorem valid : (Reached p task fs input (.write job ls)) →
    ∃ d, (Document.read fs input = .ok d) ∧ (p.grammar.validateDocument d = .valid)
  | .write (.check (.emit hd hv _ _) _ _) _ => ⟨_, hd, hv⟩

-- The work on an item that has come to its write is this write.
theorem runIn_generateFor (keeps : p.emitter.KeepsFiles) (h : Reached p (.generate l directory) fs input (.write job ls))
    (hw : fs.write job.output (Text.joined ls) = .ok fs') (calls : List Request) :
    ∃ calls', (p.generateFor input directory l).runIn ⟨fs, calls⟩ = (.ok (job.result ls), ⟨fs', calls'⟩) := by
  have ⟨calls', hs⟩ := h.solo keeps calls
  have hr : (Stage.rest p (.generate l directory) input (.write job ls)).runIn ⟨fs, calls'⟩ =
      (.ok (.generated (job.result ls)), ⟨fs', calls'⟩) := by
    simp only [Stage.rest, Action.runIn_bind, Job.runIn_write, Job.contentOf_eq, hw]
    rfl
  rw [hr, Stage.rest, Action.runIn_bind] at hs
  rcases hg : (p.generateFor input directory l).runIn ⟨fs, calls⟩ with ⟨_ | _, _⟩ <;> simp_all

theorem of_generateFor (keeps : p.emitter.KeepsFiles) (h : (p.generateFor input directory l).runIn w = (.ok file, w')) :
    ∃ job ls, (Reached p (.generate l directory) w.files input (.write job ls)) ∧
      (w.files.write job.output (Text.joined ls) = .ok w'.files) ∧ (file = job.result ls) := by
  have ⟨d, w₁, hd, h₁⟩ := Action.runIn_bind_ok h
  have hs : ((p.load input).runIn w).snd = w := Pipeline.load_still w
  rw [hd] at hs
  subst hs
  have ⟨hr, hv⟩ := Pipeline.load_ok hd
  have ⟨job, w₂, hj, h₂⟩ := Action.runIn_bind_ok h₁
  rw [Action.runIn_ofExcept] at hj
  obtain ⟨ho, rfl⟩ : (Job.of d l directory = .ok job) ∧ (w₁ = w₂) := by
    cases ho : Job.of d l directory <;> simp_all [Except.mapError]
  have ⟨ls, w₃, he, h₃⟩ := Action.runIn_bind_ok h₂
  have ⟨_, w₄, hc, h₄⟩ := Action.runIn_bind_ok h₃
  obtain ⟨request, hq, hl, rfl⟩ := Job.emit_ok keeps he
  obtain ⟨hi, rfl⟩ := Job.checkDirectory_ok hc
  have ⟨hw, _, hf⟩ := Job.write_ok h₄
  rw [Job.contentOf_eq] at hw
  exact ⟨job, ls, .write (.check (.emit hr hv rfl ho) hq hl) hi, hw, hf⟩

end Batch.Stage.Reached

namespace Pipeline

variable {p : Pipeline} {input : Path} {directory : Option Path} {l : Language} {w w' : World} {file : WrittenFile}

-- Without a directory given, what is written is the model itself if the model has the name of what is written.
theorem locate_path_iff {name : TypeName} {fs : FileSystem} (h : TypeName.ofPath? input = some name) :
    (fs.locate (Output.path input none name.text l.extension) = fs.locate input) ↔
      (input.fileName? = some (name.text ++ "." ++ l.extension).toList) := by
  have ⟨n, hn⟩ := TypeName.fileName?_of_ofPath? h
  have ho := (Output.isOutputName_of_ofPath? h l).isName
  rw [Output.path, Output.fileName, FileSystem.locate_join ho, Output.locate_directory_none hn, hn,
    List.append_cancel_left_eq, List.singleton_inj, Option.some_inj, ← String.toList_inj, String.toList_ofList]
  exact eq_comm

-- Generation leaves the model as it is and can be done again with nothing changed, unless it writes to the
-- place of the model, where the lines of the emitter take that of the model.
theorem generateFor_again (answers : p.emitter.OfRequest) (linkless : w.files.Linkless)
    (ok : (p.generateFor input directory l).runIn w = (.ok file, w')) :
    ((w.files.locate file.path ≠ w.files.locate input) →
      (w'.files.resolve input = w.files.resolve input) ∧
      (w'.files.read input = w.files.read input) ∧
      (∃ calls, (p.generateFor input directory l).runIn w' = (.ok file, ⟨w'.files, calls⟩))) ∧
    ((w.files.locate file.path = w.files.locate input) → ∃ d request ls,
      (Document.read w.files input = .ok d) ∧ (d.schemaText = .ok request.schema) ∧
      ((p.emitter w.files request).fst = .lines ls) ∧ (w'.files.read input = .ok (Text.joined ls))) ∧
    ((directory = none) → ((w.files.locate file.path = w.files.locate input) ↔
      (input.fileName? = some (file.typeName.text ++ "." ++ l.extension).toList))) := by
  have keeps := answers.keepsFiles
  obtain ⟨job, ls, reached, hw, rfl⟩ := Batch.Stage.Reached.of_generateFor keeps ok
  have .write (.check (.emit (d := d) hd _ ht hj) hq hl) _ := reached
  cases ht
  have ⟨li, content, x, hi, ha⟩ := Document.resolve_of_read hd
  have ⟨t, hr, o⟩ := FileSystem.write_ok hw
  have hlo : t.location = w.files.locate job.output := linkless.locate hr
  have hli : li = w.files.locate input := linkless.locate hi
  refine ⟨fun hn => ?_, fun he => ?_, fun hd => ?_⟩
  case refine_1 =>
    -- The write is elsewhere, so the second run reads the same and writes what is there.
    have hne : li ≠ t.location := fun h => hn (by rw [Job.result, ← hlo, ← h, hli])
    have hread : w'.files.read input = w.files.read input := o.toAgree.read hi hne
    have again := reached.transfer answers (Document.read_congr hread) fun _ => o.toAgree.isDirectory_eq
    exact ⟨(o.toAgree.resolve hi hne).trans hi.symm, hread,
      again.runIn_generateFor keeps (FileSystem.settled_of_write hw) w'.calls⟩
  case refine_2 =>
    -- The model is what is overwritten.
    obtain rfl : li = t.location := by rw [hli, hlo]; exact he.symm
    obtain ⟨rfl, _⟩ := Job.of_ok hj
    exact ⟨_, _, ls, hd, Job.schema_of_request hq, hl, FileSystem.read_of_write hw hr hi ha⟩
  case refine_3 =>
    subst hd
    obtain ⟨rfl, _, hn, ho⟩ := Job.of_ok hj
    obtain rfl := Document.path_of_read ‹_›
    rw [Job.result, ho]
    exact locate_path_iff hn

section OneModel

open FileSystem

-- A model alone, under some name.
def oneModel (n : String) : FileSystem where
  entries := [([n], .file smallModel false)]

def userModel : String := "\x7b\"type\": \"object\", \"properties\": \x7b\x7d\x7d"

def interfacePipeline : Pipeline := ⟨.bundled, .ofReply fun r => .lines ["interface " ++ r.typeName.text ++ " \x7b\x7d"]⟩

def interfaceLines : List String := ["interface User \x7b\x7d"]

def interfaceJob (n : String) : Job := ⟨⟨⟨n⟩, userModel⟩, .typeScript, ⟨"User"⟩, ⟨"./User.ts"⟩⟩

variable {n : String}

theorem linkless_oneModel : (oneModel n).Linkless :=
  linkless_of_entries (by simp [oneModel])

theorem resolve_oneModel (h : n = "User.json" ∨ n = "User.ts") :
    (oneModel n).resolve ⟨n⟩ = .ok (.entry [n] (.file smallModel false)) := by
  have w : Walks (oneModel n) linkLimit [] [n] (.entry [n] (.file smallModel false)) := by
    rcases h with rfl | rfl <;> exact .down ⟨rfl, rfl⟩ ⟨by decide, by decide, by decide⟩ rfl (by simp) (.arrive rfl)
  rcases h with rfl | rfl <;> exact resolve_ok_iff.mpr ⟨by decide, by decide, by decide, w⟩

theorem isDirectory_oneModel : (oneModel n).isDirectory ⟨"."⟩ :=
  isDirectory_iff.mpr ⟨[], resolve_ok_iff.mpr ⟨by decide, by decide, by decide, .stay ⟨rfl, rfl⟩ (.arrive rfl)⟩⟩

theorem decode_smallModel : Text.Utf8.decode smallModel = .ok userModel.toList := by decide

theorem validateText_userModel : Grammar.bundled.validateText userModel = .valid := by decide +kernel

theorem valid_userModel {path : Path} (h : Format.ofPath path = .json) :
    Grammar.bundled.validateDocument ⟨path, userModel⟩ = .valid :=
  Grammar.validateDocument_json (d := ⟨path, userModel⟩) h |>.trans validateText_userModel

theorem read_oneModel (h : n = "User.json" ∨ n = "User.ts") :
    Document.read (oneModel n) ⟨n⟩ = .ok ⟨⟨n⟩, userModel⟩ := by
  have ha : (oneModel n).allows .read [n] := rfl
  simp [Document.read, readText, FileSystem.read, resolve_oneModel h, ha, decode_smallModel]

theorem reached_oneModel (h : n = "User.json" ∨ n = "User.ts") :
    Batch.Stage.Reached interfacePipeline (.generate .typeScript none) (oneModel n) ⟨n⟩
      (.write (interfaceJob n) interfaceLines) := by
  have hv : interfacePipeline.grammar.validateDocument ⟨⟨n⟩, userModel⟩ = .valid :=
    valid_userModel (by rcases h with rfl | rfl <;> rfl)
  have hj : Job.of ⟨⟨n⟩, userModel⟩ .typeScript none = .ok (interfaceJob n) := by
    rcases h with rfl | rfl <;> rfl
  have hq : (interfaceJob n).request = .ok ⟨⟨"User"⟩, .typeScript, userModel⟩ := by
    rcases h with rfl | rfl <;> rfl
  have hd : (interfaceJob n).directory = ⟨"."⟩ := by
    rcases h with rfl | rfl <;> rfl
  have hl : ["interface " ++ "User" ++ " \x7b\x7d"] = interfaceLines := by decide
  exact .write (.check (.emit (read_oneModel h) hv rfl hj) hq (congrArg Reply.lines hl)) (hd ▸ isDirectory_oneModel)

theorem resolve_output_oneModel :
    ((oneModel "User.ts").resolve ⟨"./User.ts"⟩ = .ok (.entry ["User.ts"] (.file smallModel false))) ∧
      ((oneModel "User.json").resolve ⟨"./User.ts"⟩ = .ok (.free ["User.ts"])) := by
  have pl : IsPlainStep "User.ts" := ⟨by decide, by decide, by decide⟩
  constructor
  · exact resolve_ok_iff.mpr ⟨by decide, by decide, by decide, .stay ⟨rfl, rfl⟩ (.down ⟨rfl, rfl⟩ pl rfl (by simp) (.arrive rfl))⟩
  · exact resolve_ok_iff.mpr ⟨by decide, by decide, by decide, .stay ⟨rfl, rfl⟩ (.free ⟨rfl, rfl⟩ pl rfl)⟩

theorem write_output_oneModel (h : n = "User.json" ∨ n = "User.ts") :
    ∃ files, (oneModel n).write ⟨"./User.ts"⟩ (Text.joined interfaceLines) = .ok files := by
  have ⟨hs, hj⟩ := resolve_output_oneModel
  have ha (l : Location) : (oneModel n).allows .write l := rfl
  rcases h with rfl | rfl
  case inl => exact ⟨_, by simp only [write, hj, ha]; rfl⟩
  case inr => exact ⟨_, by simp only [write, hs, ha]; rfl⟩

theorem generateFor_again_user :
    let w : World := ⟨oneModel "User.json", []⟩
    (interfacePipeline.emitter.OfRequest) ∧ (w.files.Linkless) ∧
      (∃ file w', ((interfacePipeline.generateFor ⟨"User.json"⟩ none .typeScript).runIn w = (.ok file, w')) ∧
        (w'.files.read ⟨"User.json"⟩ = w.files.read ⟨"User.json"⟩) ∧
        (∃ calls, (interfacePipeline.generateFor ⟨"User.json"⟩ none .typeScript).runIn w' = (.ok file, ⟨w'.files, calls⟩))) := by
  intro w
  have answers : interfacePipeline.emitter.OfRequest := ⟨_, rfl⟩
  have ⟨files, hw⟩ := write_output_oneModel (.inl rfl)
  have ⟨calls, ok⟩ := (reached_oneModel (.inl rfl)).runIn_generateFor answers.keepsFiles hw []
  have ⟨_, same, again⟩ := (generateFor_again answers linkless_oneModel ok).left (by decide)
  exact ⟨answers, linkless_oneModel, _, _, ok, same, again⟩

-- A model under the name of its own output is lost.
theorem generateFor_replaces_model :
    let w : World := ⟨oneModel "User.ts", []⟩
    (interfacePipeline.emitter.OfRequest) ∧ (w.files.Linkless) ∧ (w.files.isFile ⟨"User.ts"⟩) ∧
      (∃ file w', ((interfacePipeline.generateFor ⟨"User.ts"⟩ none .typeScript).runIn w = (.ok file, w')) ∧
        (w'.files.read ⟨"User.ts"⟩ ≠ w.files.read ⟨"User.ts"⟩) ∧
        (((interfacePipeline.generateFor ⟨"User.ts"⟩ none .typeScript).runIn w').fst ≠ .ok file)) := by
  intro w
  have answers : interfacePipeline.emitter.OfRequest := ⟨_, rfl⟩
  have hi := resolve_oneModel (n := "User.ts") (.inr rfl)
  obtain ⟨files, hw⟩ := write_output_oneModel (n := "User.ts") (.inr rfl)
  obtain ⟨calls, ok⟩ := (reached_oneModel (.inr rfl)).runIn_generateFor answers.keepsFiles hw []
  have hr : files.read ⟨"User.ts"⟩ = .ok (Text.joined interfaceLines) :=
    read_of_write hw resolve_output_oneModel.left hi rfl
  refine ⟨answers, linkless_oneModel, isFile_iff.mpr ⟨_, _, _, hi⟩, _, _, ok, ?_, ?_⟩
  · have hb : w.files.read ⟨"User.ts"⟩ = .ok smallModel := by simp only [FileSystem.read, w, hi]; rfl
    rw [hr, hb]
    decide
  · intro again
    obtain ⟨job, ls, reached, _⟩ := Batch.Stage.Reached.of_generateFor answers.keepsFiles (Prod.ext again rfl)
    obtain ⟨d, hd, hv⟩ := reached.valid
    have ht : Text.Utf8.decode (Text.joined interfaceLines) = .ok "interface User \x7b\x7d".toList := by decide
    have hd' : Document.read files ⟨"User.ts"⟩ = .ok ⟨⟨"User.ts"⟩, "interface User \x7b\x7d"⟩ := by
      simp [Document.read, readText, hr, ht]
    obtain rfl := Except.ok.inj (hd.symm.trans hd')
    rw [Grammar.validateDocument_json rfl] at hv
    revert hv
    decide +kernel

end OneModel

end Pipeline

end ModelForge
