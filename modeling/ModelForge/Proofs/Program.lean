import ModelForge.Program
import ModelForge.Proofs.Generation
import ModelForge.Proofs.Text.Lines
import ModelForge.Proofs.Text.Utf8

namespace ModelForge.Program

open Text (dropLastFeed plainFeeds)
open Text.Utf8 (encode)

-- The emitter answers with the lines of a text.
structure Transcribes (emitter : Emitter) (fs : FileSystem) (request : Request) (s : List Char)
    (ls : List String) (fs' : FileSystem) : Prop where
  reply    : emitter fs request = (.lines ls, fs')
  feedless : ∀ l ∈ ls, '\n' ∉ l.toList
  count    : ls.length = s.count '\n' + if (s ≠ []) ∧ (s.getLast? ≠ some '\n') then 1 else 0
  joined   : Text.joined ls = encode (dropLastFeed (plainFeeds s))

-- A job has written a text, which is as it was but for its line ends.
structure Keeps (job : Job) (fs fs' : FileSystem) (s : List Char) (file : WrittenFile) : Prop where
  path    : file.path = job.output
  lines   : file.lines = s.count '\n' + if (s ≠ []) ∧ (s.getLast? ≠ some '\n') then 1 else 0
  content : ∃ l, fs.OnlyFile fs' file.path l (encode (dropLastFeed (plainFeeds s)))

variable {p : Program} {run : Runner} {result : Result} {emitter : Emitter} {request : Request} {job : Job}
  {fs fs' : FileSystem} {w w' : World} {file : WrittenFile} {s : List Char} {ls : List String}

theorem linesOf_encode (s : List Char) : linesOf (encode s) = .ok ((Text.lines s).map String.ofList) := by
  rw [linesOf, Text.Utf8.decode_encode]
  rfl

theorem transcribes (hr : run fs request = (.ok result, fs')) (hs : result.status = .exited 0)
    (ho : result.output = encode s) :
    Transcribes (p.emitterBy run) fs request s ((Text.lines s).map String.ofList) fs' where
  reply := by simp [emitterBy, hr, reply, hs, ho, linesOf_encode]
  feedless l hl := by
    obtain ⟨l, hm, rfl⟩ := List.mem_map.mp hl
    rw [String.toList_ofList]
    exact Text.feed_notMem_of_mem_lines hm
  count := by rw [List.length_map, Text.length_lines]
  joined := by simp [Text.joined, Text.intercalate_lines]

namespace Transcribes

variable (t : Transcribes emitter w.files request s ls fs) (hq : job.request = .ok request)

include t

theorem contentOf_eq : Job.contentOf ls = encode (dropLastFeed (plainFeeds s)) := by
  rw [Job.contentOf_eq, t.joined]

include hq

theorem keeps (h : (job.run emitter).runIn w = (.ok file, w')) : Keeps job fs w'.files s file := by
  rw [Job.runIn_run_of_lines hq t.reply] at h
  split at h
  case isFalse => cases h
  case isTrue =>
    obtain ⟨hw, _, rfl⟩ := Job.write_ok h
    exact ⟨rfl, t.count, t.contentOf_eq ▸ FileSystem.write_onlyFile hw⟩

-- Nothing but the file system can be in the way.
theorem ok_iff : (∃ file w', (job.run emitter).runIn w = (.ok file, w')) ↔ (fs.isDirectory job.directory) ∧
    ∃ fs', fs.write job.output (encode (dropLastFeed (plainFeeds s))) = .ok fs' := by
  rw [Job.runIn_run_of_lines hq t.reply, Job.runIn_write, t.contentOf_eq]
  cases fs.write job.output _ <;> by_cases hd : fs.isDirectory job.directory <;> simp [hd]

end Transcribes

theorem writes_output (p : Program) (hq : job.request = .ok request) (hr : run w.files request = (.ok result, fs))
    (hs : result.status = .exited 0) (ho : result.output = encode s) :
    (∃ ls, Transcribes (p.emitterBy run) w.files request s ls fs) ∧
      (∀ file w', ((job.run (p.emitterBy run)).runIn w = (.ok file, w')) → Keeps job fs w'.files s file) ∧
      ((∃ file w', (job.run (p.emitterBy run)).runIn w = (.ok file, w')) ↔ (fs.isDirectory job.directory) ∧
        ∃ fs', fs.write job.output (encode (dropLastFeed (plainFeeds s))) = .ok fs') := by
  have t := transcribes (p := p) hr hs ho
  exact ⟨⟨_, t⟩, fun _ _ => t.keeps hq, t.ok_iff hq⟩

-- What runs a program that puts out the schema it is given.
def copying : Runner := fun fs r => (.ok ⟨.exited 0, encode r.schema.toList, []⟩, fs)

-- A model with all kinds of line ends.
def unevenJob : Job := ⟨⟨⟨"User.json"⟩, "\x7b\r\n\r\r\n\n\x7d\r"⟩, .python, ⟨"User"⟩, ⟨"./User.py"⟩⟩

theorem writes_output_uneven :
    let w : World := ⟨{ entries := [] }, []⟩
    let p : Program := ⟨⟨"cat"⟩, []⟩
    let request : Request := ⟨⟨"User"⟩, .python, unevenJob.document.raw⟩
    (unevenJob.request = .ok request) ∧
      (copying w.files request = (.ok ⟨.exited 0, encode unevenJob.document.raw.toList, []⟩, w.files)) ∧
      (∃ file w', ((unevenJob.run (p.emitterBy copying)).runIn w = (.ok file, w')) ∧
        (file.path = ⟨"./User.py"⟩) ∧ (file.lines = 4) ∧
        (∃ l, w.files.OnlyFile w'.files file.path l (encode "\x7b\n\r\n\n\x7d\r".toList))) := by
  intro w p request
  have hq : unevenJob.request = .ok request := rfl
  have hd : w.files.resolve ⟨"."⟩ = .ok (.entry [] .directory) :=
    FileSystem.resolve_ok_iff.mpr ⟨by decide, by decide, by decide, .stay ⟨rfl, rfl⟩ (.arrive rfl)⟩
  have hf : w.files.resolve unevenJob.output = .ok (.free ["User.py"]) :=
    FileSystem.resolve_ok_iff.mpr ⟨by decide, by decide, by decide,
      .stay ⟨rfl, rfl⟩ (.free ⟨rfl, rfl⟩ ⟨by decide, by decide, by decide⟩ rfl)⟩
  have ha : w.files.allows .write [] := rfl
  have hr : copying w.files request = (.ok ⟨.exited 0, encode request.schema.toList, []⟩, w.files) := rfl
  have ⟨_, keeps, ok⟩ := writes_output p hq hr rfl rfl
  have ⟨file, w', h⟩ := ok.mpr ⟨FileSystem.isDirectory_iff.mpr ⟨[], hd⟩, _, by simp [FileSystem.write, hf, ha]; rfl⟩
  have k := keeps file w' h
  have ht : dropLastFeed (plainFeeds request.schema.toList) = "\x7b\n\r\n\n\x7d\r".toList := by decide
  exact ⟨hq, hr, file, w', h, k.path, k.lines.trans (by decide), ht ▸ k.content⟩

end ModelForge.Program
