import ModelForge.Proofs.Generation
import ModelForge.Proofs.Json.RoundTrip
import ModelForge.Proofs.Yaml.Reader

namespace ModelForge

-- The text that a value is written as is read as this value.
theorem Json.Canonical.parse_pretty {v : Json} (h : v.Canonical) (hr : v.RealFree) (hn : v.nesting < recursionLimit) :
    parse v.pretty = .ok v := by
  rw [(h.exact hr).parse_pretty hn, h.ordered_eq]

namespace Document

variable {d : Document} {v : Json}

theorem parsed_json (hf : d.format = .json) (h : d.parsed = .ok v) : Json.parse d.raw = .ok v := by
  delta parsed at h
  simp only [hf] at h
  cases hp : Json.parse d.raw with
  | error => simp [hp, Except.mapError] at h
  | ok => simpa [hp, Except.mapError] using h

theorem parsed_yaml (hf : d.format = .yaml) (h : d.parsed = .ok v) : Yaml.parse d.raw = .ok v := by
  delta parsed at h
  simp only [hf] at h
  cases hp : Yaml.parse d.raw with
  | error => simp [hp, Except.mapError] at h
  | ok => simpa [hp, Except.mapError] using h

theorem schemaText_json (hf : d.format = .json) : d.schemaText = .ok d.raw := by
  delta schemaText
  simp only [hf]

theorem schemaText_yaml (hf : d.format = .yaml) (h : d.parsed = .ok v) : d.schemaText = .ok v.pretty := by
  delta schemaText
  simp only [hf, h]

-- What has been parsed can be handed to an emitter.
theorem schemaText_of_parsed (h : d.parsed = .ok v) : ∃ text, d.schemaText = .ok text := by
  cases hf : d.format with
  | json => exact ⟨_, schemaText_json hf⟩
  | yaml => exact ⟨_, schemaText_yaml hf h⟩

-- What is valid has been parsed.
theorem parsed_of_valid {g : Grammar} (h : g.validateDocument d = .valid) : ∃ v, d.parsed = .ok v := by
  delta Grammar.validateDocument at h
  cases hp : d.parsed with
  | ok v => exact ⟨v, rfl⟩
  | error => simp [hp, Grammar.notParsed] at h

-- The emitter can be asked about what is valid.
theorem request_of_valid {g : Grammar} {job : Job} {l : Language} {directory : Option Path}
    (hv : g.validateDocument d = .valid) (hj : Job.of d l directory = .ok job) :
    ∃ request, job.request = .ok request := by
  obtain ⟨rfl, _⟩ := Job.of_ok hj
  have ⟨v, hp⟩ := parsed_of_valid hv
  have ⟨text, ht⟩ := schemaText_of_parsed hp
  delta Job.request
  simp only [ht]
  exact ⟨_, rfl⟩

-- A schema is what grammars are checked on, and jobs hand it to their emitters.
structure Carries (d : Document) (v : Json) (text : String) : Prop where
  schema    : d.schemaText = .ok text
  same      : Json.parse text = .ok v
  verbatim  : (d.format = .json) → text = d.raw
  validated : ∀ g : Grammar, g.validateDocument d = g.validate v
  asked     : ∀ job : Job, (job.document = d) → job.request = .ok ⟨job.typeName, job.language, text⟩

theorem carries {text : String} (hp : d.parsed = .ok v) (hs : d.schemaText = .ok text) (hv : Json.parse text = .ok v)
    (hr : (d.format = .json) → text = d.raw) : d.Carries v text where
  schema := hs
  same := hv
  verbatim := hr
  validated g := by
    delta Grammar.validateDocument
    simp only [hp]
  asked job hj := by
    delta Job.request
    simp only [hj, hs]

theorem schemaText_carries (hp : d.parsed = .ok v) (hr : v.RealFree) (hn : v.nesting < Json.recursionLimit) :
    (∃ text, d.Carries v text) ∧
      (∀ v : Json, (v.Canonical) → (v.RealFree) → (v.nesting < Json.recursionLimit) → Json.parse v.pretty = .ok v) := by
  refine ⟨?_, fun v hc hr hn => hc.parse_pretty hr hn⟩
  cases hf : d.format with
  | json => exact ⟨_, carries hp (schemaText_json hf) (parsed_json hf hp) fun _ => rfl⟩
  | yaml =>
    have hc := Yaml.parse_canonical (parsed_yaml hf hp)
    exact ⟨_, carries hp (schemaText_yaml hf hp) (hc.parse_pretty hr hn) (by simp [hf])⟩

-- A document in YAML with what has to be written with care: quotes, a control, the bounds, empty brackets.
def carefulDocument : Document where
  path := ⟨"Order.yaml"⟩
  raw := "type: object\ntitle: \"a \\\"b\\\" \\\\ \\u0001 ü\"\n" ++
    "default: [18446744073709551615, -9223372036854775808, []]\nproperties: \x7b\x7d\n"

def carefulValue : Json := .obj [
  ("default", .arr [.num (.int 18446744073709551615), .num (.int (-9223372036854775808)), .arr []]),
  ("properties", .obj []),
  ("title", .str "a \"b\" \\ \x01 ü"),
  ("type", .str "object")]

set_option maxRecDepth 100000 in
theorem parsed_careful : carefulDocument.parsed = .ok carefulValue := by with_unfolding_all rfl

theorem realFree_careful : carefulValue.RealFree := by
  refine .obj ?_
  simp only [List.forall_mem_cons, List.not_mem_nil, false_implies, implies_true, and_true]
  refine ⟨.arr ?_, .obj nofun, .str, .str⟩
  simp only [List.forall_mem_cons, List.not_mem_nil, false_implies, implies_true, and_true]
  exact ⟨.int, .int, .arr nofun⟩

theorem schemaText_carries_careful :
    (carefulDocument.parsed = .ok carefulValue) ∧ (carefulValue.RealFree) ∧
      (carefulValue.nesting < Json.recursionLimit) ∧ (∃ text, carefulDocument.Carries carefulValue text) :=
  have hn : carefulValue.nesting < Json.recursionLimit := by decide
  ⟨parsed_careful, realFree_careful, hn, (schemaText_carries parsed_careful realFree_careful hn).left⟩

end Document

end ModelForge
