import AsmLayout.Proofs.Json.Value
import AsmLayout.Settings
import Mathlib.Data.List.Basic

/-! # Settings are read back from their members

The members of written settings may come in any order, spaced in any way and with others between them.
While they are read, a draft holds what the members met so far have said, whatever the order; once all
of them are met, that is the settings.
-/

namespace AsmLayout

namespace Config

def value (config : Config) : Field → Json.Value
  | .heap => .number (.natural config.heap)
  | .stack => .number (.natural config.stack)
  | .bss => .bool config.bss
  | .data => .bool config.data
  | .rodata => .bool config.rodata
  | .fileStructure => .bool config.fileStructure

/-- The configuration in which only these fields are set as they are here. -/
def only (config : Config) (fields : List Field) : Config where
  heap := if .heap ∈ fields then config.heap else 0
  stack := if .stack ∈ fields then config.stack else 0
  bss := if .bss ∈ fields then config.bss else false
  data := if .data ∈ fields then config.data else false
  rodata := if .rodata ∈ fields then config.rodata else false
  fileStructure := if .fileStructure ∈ fields then config.fileStructure else false

theorem only_of_all (config : Config) {fields : List Field} (all : ∀ field, field ∈ fields) :
    config.only fields = config := by
  simp only [only, all, if_true]

theorem set_only (config : Config) {fields : List Field} {field : Field} (new : field ∉ fields) :
    Draft.set ⟨config.only fields, fields⟩ field (config.value field) =
      some ⟨config.only (field :: fields), field :: fields⟩ := by
  cases field <;> simp [Draft.set, new, value, Json.Value.natural?, Json.Value.bool?, only]

end Config

namespace Settings

open Config (Field)

/-- The names of the members of settings. -/
def keys : List String :=
  ["heap", "stack", "bss", "data", "rodata", "file_structure", "used_as", "seed"]

def members (settings : Settings) : List Json.Member :=
  [("heap", [(toString settings.config.heap).toList]),
   ("stack", [(toString settings.config.stack).toList]),
   ("bss", [(toString settings.config.bss).toList]),
   ("data", [(toString settings.config.data).toList]),
   ("rodata", [(toString settings.config.rodata).toList]),
   ("file_structure", [(toString settings.config.fileStructure).toList]),
   ("used_as", [(Json.writeText settings.assembler).toList]),
   ("seed", [match settings.seed with
      | none => "null".toList
      | some text => (Json.writeText text).toList])]

/-- The fields that members set, in order. -/
def fieldsOf {α : Type} (members : List (String × α)) : List Field :=
  members.filterMap fun member => Field.ofName? member.1

/-- What a draft holds after members of written settings, and others, have been met. -/
structure Holds (settings : Settings) (met : List Json.Member) (draft : Draft) : Prop where
  assembler : draft.assembler =
    if "used_as" ∈ met.map (·.1) then some settings.assembler else none
  seed : draft.seed = if "seed" ∈ met.map (·.1) then some settings.seed else none
  fields : fieldsOf draft.others = (fieldsOf met).reverse
  values : ∀ member ∈ draft.others, ∀ field, Field.ofName? member.1 = some field →
    member.2 = settings.config.value field

theorem flatten_objectTokens (config : Config) (assembler seed : String) :
    (Json.objectTokens [("heap", [(toString config.heap).toList]),
      ("stack", [(toString config.stack).toList]), ("bss", [(toString config.bss).toList]),
      ("data", [(toString config.data).toList]), ("rodata", [(toString config.rodata).toList]),
      ("file_structure", [(toString config.fileStructure).toList]), ("used_as", [assembler.toList]),
      ("seed", [seed.toList])]).flatten =
      ("\x7b" ++ config.jsonMembers ++ ",\"used_as\":" ++ assembler ++ ",\"seed\":" ++ seed ++
        "\x7d").toList := by
  have bool (b : Bool) : (Config.boolText b).toList = (toString b).toList := by cases b <;> rfl
  have text (s : String) : toString s = s := rfl
  -- The equation of so long an interpolated text takes seconds to derive.
  delta Config.jsonMembers
  simp [Json.objectTokens, Json.listed, Json.memberTokens, Json.writeText, Json.writeChar, bool,
    text]

theorem toJson_eq (settings : Settings) :
    settings.toJson.toList = (Json.objectTokens settings.members).flatten := by
  obtain ⟨config, assembler, seed⟩ := settings
  cases seed <;> exact (flatten_objectTokens ..).symm

theorem setFields_only (config : Config) {others : List (String × Json.Value)} {fields : List Field}
    (new : (fieldsOf others ++ fields).Nodup)
    (values : ∀ member ∈ others, ∀ field, Field.ofName? member.1 = some field →
      member.2 = config.value field) :
    setFields ⟨config.only fields, fields⟩ others =
      some ⟨config.only ((fieldsOf others).reverse ++ fields), (fieldsOf others).reverse ++ fields⟩ := by
  induction others generalizing fields with
  | nil => rfl
  | cons member others ih =>
      obtain ⟨key, value⟩ := member
      have later := fun other isOther => values other (List.mem_cons_of_mem _ isOther)
      rw [setFields]
      cases named : Field.ofName? key with
      | none =>
          have same : fieldsOf ((key, value) :: others) = fieldsOf others :=
            List.filterMap_cons_none named
          rw [same] at new ⊢
          exact ih new later
      | some field =>
          have split : fieldsOf ((key, value) :: others) = field :: fieldsOf others :=
            List.filterMap_cons_some named
          rw [split] at new ⊢
          have said : value = config.value field := values _ (List.mem_cons_self ..) field named
          have unset : field ∉ fields := by
            intro member
            exact (List.nodup_cons.mp new).1 (List.mem_append_right _ member)
          have rest : (fieldsOf others ++ field :: fields).Nodup :=
            List.perm_middle.nodup_iff.mpr new
          simp only [said, Config.set_only config unset]
          rw [ih rest later, List.reverse_cons, List.append_assoc, List.singleton_append]

theorem fieldsOf_append {α : Type} (front back : List (String × α)) :
    fieldsOf (front ++ back) = fieldsOf front ++ fieldsOf back :=
  List.filterMap_append

theorem mem_keys_of_ofName? {key : String} {field : Field} (named : Field.ofName? key = some field) :
    key ∈ keys ∧ key ≠ "used_as" ∧ key ≠ "seed" := by
  have known : ∀ key ∈ Field.table.map (·.1), key ∈ keys ∧ key ≠ "used_as" ∧ key ≠ "seed" := by
    decide
  refine known key ?_
  rw [Field.ofName?, List.lookup_eq_some_iff] at named
  obtain ⟨before, behind, split, -⟩ := named
  rw [split]
  simp

theorem mem_members {settings : Settings} (heap : settings.config.heap ≤ Config.maxBound)
    (stack : settings.config.stack ≤ Config.maxBound) {key : String} {tokens : List Json.Token}
    (member : (key, tokens) ∈ settings.members) :
    (∃ field token, Field.ofName? key = some field ∧ tokens = [token] ∧
      Json.Written (settings.config.value field) token) ∨
    (key = "used_as" ∧ tokens = [(Json.writeText settings.assembler).toList]) ∨
    (key = "seed" ∧ ∃ value token, tokens = [token] ∧ Json.Written value token ∧
      value.optionalText? = some settings.seed) := by
  have fits {n : Nat} (bounded : n ≤ Config.maxBound) : n < Json.naturalLimit :=
    Nat.lt_of_le_of_lt bounded (by decide)
  simp only [members, List.mem_cons, List.not_mem_nil, or_false, Prod.mk.injEq] at member
  rcases member with ⟨rfl, rfl⟩ | ⟨rfl, rfl⟩ | ⟨rfl, rfl⟩ | ⟨rfl, rfl⟩ | ⟨rfl, rfl⟩ | ⟨rfl, rfl⟩ |
    ⟨rfl, rfl⟩ | ⟨rfl, rfl⟩
  · exact .inl ⟨.heap, _, rfl, rfl, .natural (fits heap)⟩
  · exact .inl ⟨.stack, _, rfl, rfl, .natural (fits stack)⟩
  · exact .inl ⟨.bss, _, rfl, rfl, .bool _⟩
  · exact .inl ⟨.data, _, rfl, rfl, .bool _⟩
  · exact .inl ⟨.rodata, _, rfl, rfl, .bool _⟩
  · exact .inl ⟨.fileStructure, _, rfl, rfl, .bool _⟩
  · exact .inr (.inl ⟨rfl, rfl⟩)
  · refine .inr (.inr ⟨rfl, ?_⟩)
    cases settings.seed with
    | none => exact ⟨.null, _, rfl, .null, rfl⟩
    | some text => exact ⟨.text text, _, rfl, .text text, rfl⟩

theorem reads_kept (draft : Draft) {key : String} {tokens : List Json.Token} {found : Json.Value}
    (noAssembler : key ≠ "used_as") (noSeed : key ≠ "seed")
    (reads : Json.Reads (Json.value insideReading) tokens found) :
    Json.Reads (readMember draft key) ([':'] :: tokens)
      { draft with others := (key, found) :: draft.others } := by
  unfold readMember
  simp only [noAssembler, noSeed, if_false]
  exact reads.member fun value => { draft with others := (key, value) :: draft.others }

namespace Holds

variable {settings : Settings} {met : List Json.Member} {draft : Draft}

theorem keep (holds : Holds settings met draft) {key : String} {tokens : List Json.Token}
    {found : Json.Value} (noAssembler : key ≠ "used_as") (noSeed : key ≠ "seed")
    (said : ∀ field, Field.ofName? key = some field → found = settings.config.value field) :
    Holds settings (met ++ [(key, tokens)])
      { draft with others := (key, found) :: draft.others } where
  assembler := holds.assembler.trans (if_congr (by simp [noAssembler.symm]) rfl rfl)
  seed := holds.seed.trans (if_congr (by simp [noSeed.symm]) rfl rfl)
  fields := by
    have single {α : Type} (said : α) : fieldsOf [(key, said)] = (Field.ofName? key).toList := by
      cases named : Field.ofName? key with
      | none => exact List.filterMap_cons_none named
      | some field => exact List.filterMap_cons_some named
    rw [fieldsOf_append, single, ← List.singleton_append, fieldsOf_append, single, holds.fields,
      List.reverse_append]
    cases Field.ofName? key <;> rfl
  values := by
    intro member isKept
    rcases List.mem_cons.mp isKept with rfl | earlier
    · exact said
    · exact holds.values member earlier

theorem put_assembler (holds : Holds settings met draft) {tokens : List Json.Token} :
    Holds settings (met ++ [("used_as", tokens)])
      { draft with assembler := some settings.assembler } where
  assembler := (if_pos (by simp)).symm
  seed := holds.seed.trans (if_congr (by simp) rfl rfl)
  fields := by
    rw [fieldsOf_append]
    exact holds.fields.trans (congrArg List.reverse (List.append_nil _).symm)
  values := holds.values

theorem put_seed (holds : Holds settings met draft) {tokens : List Json.Token} :
    Holds settings (met ++ [("seed", tokens)]) { draft with seed := some settings.seed } where
  assembler := holds.assembler.trans (if_congr (by simp) rfl rfl)
  seed := (if_pos (by simp)).symm
  fields := by
    rw [fieldsOf_append]
    exact holds.fields.trans (congrArg List.reverse (List.append_nil _).symm)
  values := holds.values

theorem step (holds : Holds settings met draft) (heap : settings.config.heap ≤ Config.maxBound)
    (stack : settings.config.stack ≤ Config.maxBound) {entry : Json.Member}
    (new : entry.1 ∈ keys → entry.1 ∉ met.map (·.1)) (own : entry.1 ∈ keys → entry ∈ settings.members)
    (other : entry.1 ∉ keys → Json.IsValue 100 entry.2) :
    ∃ next, Json.Reads (readMember draft entry.1) ([':'] :: entry.2) next ∧
      Holds settings (met ++ [entry]) next := by
  obtain ⟨key, tokens⟩ := entry
  by_cases known : key ∈ keys
  · have fresh : key ∉ met.map (·.1) := new known
    rcases mem_members heap stack (own known) with
      ⟨field, token, named, rfl, written⟩ | ⟨rfl, rfl⟩ | ⟨rfl, value, token, rfl, written, meaning⟩
    · obtain ⟨-, noAssembler, noSeed⟩ := mem_keys_of_ofName? named
      refine ⟨_, reads_kept draft noAssembler noSeed (Json.reads_value_written written 126),
        holds.keep noAssembler noSeed fun field' named' => ?_⟩
      rw [Option.some.inj (named.symm.trans named')]
    · have unmet : draft.assembler = none := by rw [holds.assembler, if_neg fresh]
      refine ⟨{ draft with assembler := some settings.assembler }, ?_, ?_⟩
      · unfold readMember
        simp only [unmet, Option.isSome_none, if_true]
        have reads : Json.Reads (Json.scalar Json.Value.text?)
            [(Json.writeText settings.assembler).toList] settings.assembler :=
          Json.reads_scalar (.text _) rfl
        exact reads.member fun assembler => { draft with assembler := some assembler }
      · exact holds.put_assembler
    · have unmet : draft.seed = none := by rw [holds.seed, if_neg fresh]
      refine ⟨{ draft with seed := some settings.seed }, ?_, ?_⟩
      · unfold readMember
        simp only [unmet, Option.isSome_none, if_true]
        exact (Json.reads_scalar written meaning).member fun seed =>
          { draft with seed := some seed }
      · exact holds.put_seed
  · have noAssembler : key ≠ "used_as" := by
      rintro rfl
      exact known (by decide)
    have noSeed : key ≠ "seed" := by
      rintro rfl
      exact known (by decide)
    obtain ⟨found, reads⟩ := Json.exists_reads_value (other known) (show 100 ≤ 126 by decide)
    refine ⟨_, reads_kept draft noAssembler noSeed reads,
      holds.keep noAssembler noSeed fun field named => ?_⟩
    exact absurd (mem_keys_of_ofName? named).1 known

theorem run (heap : settings.config.heap ≤ Config.maxBound)
    (stack : settings.config.stack ≤ Config.maxBound) {entries : List Json.Member}
    (own : ∀ entry ∈ entries, entry.1 ∈ keys → entry ∈ settings.members)
    (other : ∀ entry ∈ entries, entry.1 ∉ keys → Json.IsValue 100 entry.2)
    (once : (((met ++ entries).map (·.1)).filter (· ∈ keys)).Nodup)
    (holds : Holds settings met draft) :
    ∃ last, Json.Takes readMember draft entries last ∧ Holds settings (met ++ entries) last := by
  induction entries generalizing met draft with
  | nil => exact ⟨draft, .nil, by rwa [List.append_nil]⟩
  | cons entry entries ih =>
      have fresh (known : entry.1 ∈ keys) : entry.1 ∉ met.map (·.1) := by
        intro earlier
        rw [List.map_append, List.filter_append, List.map_cons,
          List.filter_cons_of_pos (by simpa using known)] at once
        refine List.nodup_append.mp once |>.2.2 entry.1 ?_ entry.1 (List.mem_cons_self ..) rfl
        exact List.mem_filter.mpr ⟨earlier, by simpa using known⟩
      obtain ⟨next, reads, holds⟩ := holds.step heap stack fresh (own entry (List.mem_cons_self ..))
        (other entry (List.mem_cons_self ..))
      rw [List.append_cons] at once ⊢
      obtain ⟨last, takes, holds⟩ := ih
        (fun later member => own later (List.mem_cons_of_mem entry member))
        (fun later member => other later (List.mem_cons_of_mem entry member)) once holds
      exact ⟨last, .cons reads takes, holds⟩

theorem ofDraft_eq (holds : Holds settings met draft) (all : ∀ key ∈ keys, key ∈ met.map (·.1))
    (once : (fieldsOf met).Nodup) : ofDraft draft = .ok settings := by
  have fields : fieldsOf draft.others.reverse = fieldsOf met := by
    rw [fieldsOf, List.filterMap_reverse]
    exact (congrArg List.reverse holds.fields).trans (List.reverse_reverse _)
  have start : ({} : Config.Draft) = ⟨settings.config.only [], []⟩ := by simp [Config.only]
  have complete : ∀ field, field ∈ (fieldsOf draft.others.reverse).reverse ++ [] := by
    intro field
    obtain ⟨name, known, named⟩ : ∃ name ∈ keys, Field.ofName? name = some field := by
      cases field <;> decide
    obtain ⟨member, isMet, rfl⟩ := List.mem_map.mp (all name known)
    rw [List.append_nil, List.mem_reverse, fields]
    exact List.mem_filterMap.mpr ⟨member, isMet, named⟩
  have set : setFields {} draft.others.reverse =
      some ⟨settings.config, (fieldsOf draft.others.reverse).reverse ++ []⟩ := by
    rw [start, setFields_only settings.config (by rwa [List.append_nil, fields])
      fun member isKept => holds.values member (List.mem_reverse.mp isKept),
      Config.only_of_all settings.config complete]
  simp only [ofDraft, set, holds.assembler, holds.seed, if_pos (all "used_as" (by decide)),
    if_pos (all "seed" (by decide)), Option.getD_some]

end Holds

theorem fieldsOf_perm {entries : List Json.Member} {settings : Settings}
    (own : (entries.filter fun entry => entry.1 ∈ keys).Perm settings.members) :
    (fieldsOf entries).Perm [.heap, .stack, .bss, .data, .rodata, .fileStructure] := by
  have known : fieldsOf (entries.filter fun entry => entry.1 ∈ keys) = fieldsOf entries := by
    rw [fieldsOf, List.filterMap_filter]
    refine List.filterMap_congr fun entry _ => ?_
    split
    next => rfl
    next unknown =>
      cases named : Field.ofName? entry.1 with
      | none => rfl
      | some field => exact absurd (mem_keys_of_ofName? named).1 (by simpa using unknown)
  rw [← known]
  exact own.filterMap _

/-- Settings come back from the text of their members, which may stand in any order, with any spaces
    around their tokens, and with any other members between them. -/
theorem ofJson_of_members (settings : Settings) (heap : settings.config.heap ≤ Config.maxBound)
    (stack : settings.config.stack ≤ Config.maxBound) :
    ofJson settings.toJson = .ok settings ∧
      ∀ (entries : List Json.Member) (text : String),
        (entries.filter fun entry => entry.1 ∈ keys).Perm settings.members →
        (∀ entry ∈ entries, entry.1 ∉ keys → Json.IsValue 100 entry.2) →
        Json.Spaced (Json.objectTokens entries) text.toList →
        ofJson text = .ok settings := by
  have valid : settings.config.validate = .ok () := by
    rw [Config.validate, if_neg (Nat.not_lt.mpr heap), if_neg (Nat.not_lt.mpr stack)]
  have general (entries : List Json.Member) (text : String)
      (own : (entries.filter fun entry => entry.1 ∈ keys).Perm settings.members)
      (other : ∀ entry ∈ entries, entry.1 ∉ keys → Json.IsValue 100 entry.2)
      (spaced : Json.Spaced (Json.objectTokens entries) text.toList) :
      ofJson text = .ok settings := by
    have keysOnce : ((entries.map (·.1)).filter (· ∈ keys)).Perm keys := by
      rw [List.filter_map]
      exact own.map (·.1)
    have isOwn : ∀ entry ∈ entries, entry.1 ∈ keys → entry ∈ settings.members :=
      fun entry member known => own.mem_iff.mp (List.mem_filter.mpr ⟨member, by simpa using known⟩)
    have all : ∀ key ∈ keys, key ∈ entries.map (·.1) :=
      fun key known => (List.mem_filter.mp (keysOnce.mem_iff.mpr known)).1
    have start : Holds settings [] {} := ⟨rfl, rfl, rfl, nofun⟩
    have once : ((([] ++ entries : List Json.Member).map (·.1)).filter (· ∈ keys)).Nodup :=
      keysOnce.nodup_iff.mpr (by decide)
    obtain ⟨last, takes, holds⟩ := start.run heap stack isOwn other once
    have drafted := holds.ofDraft_eq all ((fieldsOf_perm own).nodup_iff.mpr (by decide))
    obtain ⟨rest, read, ended⟩ := Json.object_reads takes spaced
    have settled : Json.readAll reader text = .ok settings := by
      simp only [Json.readAll, reader, read, drafted, ended, bind, Except.bind, pure, Except.pure,
        List.isEmpty_nil, if_true]
    rw [ofJson, settled]
    simp only [valid]
  refine ⟨general settings.members settings.toJson ?_ ?_ ?_, general⟩
  · rw [List.filter_eq_self.mpr]
    intro entry member
    have known : ∀ key ∈ settings.members.map (·.1), key ∈ keys := fun key member => member
    simpa using known entry.1 (List.mem_map_of_mem member)
  · intro entry member unknown
    exact absurd (List.mem_map_of_mem (f := (·.1)) member) unknown
  · rw [toJson_eq]
    exact Json.Spaced.flatten _

theorem ofJson_of_members_among_others :
    ofJson (" \x7b\"nice\":[10,\x7b\"seed\":\"\\n\"\x7d],\"seed\":null,\"used_as\":\"as\"," ++
        "\"file_structure\":true,\"rodata\":false,\"nice\":null,\"data\":false,\"bss\":true," ++
        "\"stack\":0,\"heap\":2147483648\x7d") =
      .ok { config := { heap := 2147483648, bss := true, fileStructure := true },
            assembler := "as" } := by
  refine (ofJson_of_members _ (by decide) (by decide)).2
    [("nice", ['['] :: (Json.listed true [[['1', '0']],
        Json.objectTokens [("seed", [(Json.writeText "\n").toList])]] ++ [[']']])),
      ("seed", ["null".toList]), ("used_as", [(Json.writeText "as").toList]),
      ("file_structure", ["true".toList]), ("rodata", ["false".toList]), ("nice", ["null".toList]),
      ("data", ["false".toList]), ("bss", ["true".toList]), ("stack", [['0']]),
      ("heap", ["2147483648".toList])] _ (by decide) ?_ ?_
  · intro entry member unknown
    have inner : Json.IsValue 99 (Json.objectTokens [("seed", [(Json.writeText "\n").toList])]) :=
      .object (List.forall_mem_singleton.mpr (.scalar (.text "\n")))
    have ten : Json.IsValue 99 [['1', '0']] := .scalar (.natural (n := 10) (by decide))
    simp only [List.mem_cons, List.not_mem_nil, or_false] at member
    rcases member with rfl | rfl | rfl | rfl | rfl | rfl | rfl | rfl | rfl | rfl
    case inl => exact .array (List.forall_mem_cons.mpr ⟨ten, List.forall_mem_singleton.mpr inner⟩)
    case inr.inr.inr.inr.inr.inl => exact .scalar .null
    all_goals exact absurd (by decide) unknown
  · refine Eq.mp (congrArg (Json.Spaced _) ?_)
      (@Json.Spaced.cons [' '] _ _ _ (List.forall_mem_singleton.mpr rfl) (Json.Spaced.flatten _))
    decide +kernel

end Settings

end AsmLayout
