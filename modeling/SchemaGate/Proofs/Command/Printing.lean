import SchemaGate.Proofs.Command.Report
import SchemaGate.Proofs.Json.Value
import SchemaGate.Proofs.Text.Table

/-!
# What is printed of a report

In JSON a report is one line, which is read back part by part, so no two reports are printed alike.  The
other forms show every part of it.  Main statements: `told_lines` and `lines_json_injective` on the first,
`prettyLines_show` and `tableLines_show` on the others.
-/

namespace SchemaGate

theorem lookup_memberOf (name other : String) (value? : Option Json) :
    (memberOf name value?).lookup other = if other = name then value? else none := by
  cases value? with
  | none => rw [memberOf, List.lookup_nil, ite_self]
  | some v => rw [memberOf, lookup_entry, List.lookup_nil]

theorem names_memberOf_sublist (name : String) (value? : Option Json) :
    ((memberOf name value?).map Prod.fst).Sublist [name] := by
  cases value? with
  | none => exact List.nil_sublist _
  | some v => exact List.Sublist.refl _

theorem forall_mem_memberOf {P : Json → Prop} {name : String} {value? : Option Json} :
    (∀ entry ∈ memberOf name value?, P entry.2) ↔ ∀ v ∈ value?, P v := by
  cases value? <;> simp [memberOf]

theorem sorted_comp_string : Json.sorted ∘ Json.string = Json.string :=
  funext Json.sorted_string

theorem map_string_injective : Function.Injective (Option.map Json.string) :=
  Option.map_injective fun _ _ => Json.string.inj

namespace Failure

theorem fits_toJson (f : Failure) (levels : Nat) : Json.Fits (levels + 1) f.toJson := by
  have small : f.statusCode.toNat < 65536 := f.statusCode.toNat_lt
  have status : Json.Fits levels (.number (.integer f.statusCode.toNat)) := .integer (by omega) (by omega)
  refine .object ?_
  simp [status, Json.Fits.string]

/-- What a JSON value tells of a failure. -/
structure Told (f : Failure) (v : Json) : Prop where
  status : v.get? "statusCode" = some (.number (.integer f.statusCode.toNat))
  key : v.get? "key" = some (.string f.key)
  message : v.get? "message" = some (.string f.message)
  contentType : v.get? "contentType" = some (.string f.contentType)

theorem told_sorted (f : Failure) : f.Told f.toJson.sorted := by
  have distinct : f.toJson.names.Nodup := by simp [toJson, Json.names]
  constructor <;> rw [Json.get?_sorted distinct] <;>
    simp [toJson, Json.get?, Json.member?, lookup_entry]

theorem Told.eq {f g : Failure} {v : Json} (h : f.Told v) (other : g.Told v) : f = g := by
  have status := h.status.symm.trans other.status
  have key := h.key.symm.trans other.key
  have message := h.message.symm.trans other.message
  have contentType := h.contentType.symm.trans other.contentType
  simp only [Option.some.injEq, Json.number.injEq, Number.integer.injEq, Int.natCast_inj,
    Json.string.injEq, UInt16.toNat_inj] at status key message contentType
  cases f
  cases g
  simp_all

theorem eq_of_sorted_toJson {f g : Failure} (same : f.toJson.sorted = g.toJson.sorted) : f = g :=
  (same ▸ f.told_sorted).eq g.told_sorted

end Failure

theorem FailureKind.name_injective : Function.Injective FailureKind.name := by
  intro a b same
  cases a <;> cases b <;> first | rfl | exact absurd same (by decide)

namespace Command

theorem Surface.name_injective : Function.Injective Surface.name := by
  have listed (s : Surface) : s ∈ Surface.list := by
    rcases s with direction | direction | direction | _ | _ <;> first | decide | cases direction <;> decide
  have all : ∀ a ∈ Surface.list, ∀ b ∈ Surface.list, a.name = b.name → a = b := by decide
  exact fun a b same => all a (listed a) b (listed b) same

theorem Verdict.name_injective : Function.Injective Verdict.name := by
  intro a b same
  cases a <;> cases b <;> first | rfl | exact absurd same (by decide)

theorem Finding.ext {f g : Finding} (kind : f.kind? = g.kind?) (failure : f.failure? = g.failure?)
    (partitions : f.partitions = g.partitions) (skipped : f = .skipped ↔ g = .skipped) : f = g := by
  cases f <;> cases g <;> simp_all [kind?, failure?, Finding.partitions]

namespace PartitionReport

theorem fits_toJson (p : PartitionReport) (levels : Nat) : Json.Fits (levels + 1) p.toJson := by
  have partition : Json.Fits levels (.number (.integer p.partition.toInt)) :=
    .integer (by have := p.partition.le_toInt; omega) (by have := p.partition.toInt_lt; omega)
  have code : Json.Fits levels (.number (.integer p.errorCode.toInt)) :=
    .integer (by have := p.errorCode.le_toInt; omega) (by have := p.errorCode.toInt_lt; omega)
  refine .object (List.forall_mem_append.2 ⟨?_, forall_mem_memberOf.2 fun v given => ?_⟩)
  · simp [partition, code, Json.Fits.string]
  · obtain ⟨text, -, rfl⟩ := Option.map_eq_some_iff.1 given
    exact .string text

/-- What a JSON value tells of a partition. -/
structure Told (p : PartitionReport) (v : Json) : Prop where
  topic : v.get? "topic" = some (.string p.topic)
  partition : v.get? "partition" = some (.number (.integer p.partition.toInt))
  errorCode : v.get? "error_code" = some (.number (.integer p.errorCode.toInt))
  errorMessage : v.get? "error_message" = p.errorMessage?.map .string

theorem told_sorted (p : PartitionReport) : p.Told p.toJson.sorted := by
  have distinct : p.toJson.names.Nodup := by
    have all : ["topic", "partition", "error_code", "error_message"].Nodup := by decide
    simp only [toJson, Json.names, List.map_append]
    exact all.sublist (.append (.refl ["topic", "partition", "error_code"]) (names_memberOf_sublist _ _))
  constructor <;> rw [Json.get?_sorted distinct] <;>
    simp [toJson, Json.get?, Json.member?, lookup_entry, lookup_memberOf, sorted_comp_string]

theorem Told.eq {p q : PartitionReport} {v : Json} (h : p.Told v) (other : q.Told v) : p = q := by
  have topic := h.topic.symm.trans other.topic
  have partition := h.partition.symm.trans other.partition
  have errorCode := h.errorCode.symm.trans other.errorCode
  have errorMessage := map_string_injective (h.errorMessage.symm.trans other.errorMessage)
  simp only [Option.some.injEq, Json.number.injEq, Number.integer.injEq, Int32.toInt_inj, Int16.toInt_inj,
    Json.string.injEq] at topic partition errorCode
  cases p
  cases q
  simp_all

theorem eq_of_sorted_toJson {p q : PartitionReport} (same : p.toJson.sorted = q.toJson.sorted) : p = q :=
  (same ▸ p.told_sorted).eq q.told_sorted

theorem line_eq (p : PartitionReport) :
    p.line = String.join ["  ", p.topic, "-", toString p.partition.toInt, " error=",
      toString p.errorCode.toInt, " ", p.errorMessage?.getD ""] := by
  simp only [line, String.join_cons, String.join_nil, String.append_assoc,
    String.append_empty]

end PartitionReport

namespace CheckReport

/-- The member for the partitions, which is left out if there are none. -/
def partitions? (r : CheckReport) : Option Json :=
  if r.finding.partitions = [] then none
  else some (.array (r.finding.partitions.map PartitionReport.toJson))

theorem toJson_eq (r : CheckReport) :
    r.toJson = .object ([("phase", .string r.surface.name), ("verdict", .string r.verdict.name)] ++
      (memberOf "kind" (r.finding.kind?.map fun kind => .string kind.name) ++
        (memberOf "failure" (r.finding.failure?.map Failure.toJson) ++
          (memberOf "detail" (r.detail?.map Json.string) ++ memberOf "partitions" r.partitions?)))) := by
  rw [toJson, partitions?]
  cases r.finding.partitions <;> simp [memberOf]

theorem fits_toJson (r : CheckReport) (levels : Nat) : Json.Fits (levels + 3) r.toJson := by
  rw [toJson_eq]
  refine .object ?_
  simp only [List.forall_mem_append, forall_mem_memberOf, Option.mem_def, Option.map_eq_some_iff]
  refine ⟨?_, ?_, ?_, ?_, ?_⟩
  · simp [Json.Fits.string]
  · rintro _ ⟨kind, -, rfl⟩
    exact .string kind.name
  · rintro _ ⟨failure, -, rfl⟩
    exact failure.fits_toJson (levels + 1)
  · rintro _ ⟨detail, -, rfl⟩
    exact .string detail
  · intro v given
    obtain rfl := Option.some.inj (Option.ite_none_left_eq_some.1 given).2
    refine .array fun v member => ?_
    obtain ⟨p, -, rfl⟩ := List.mem_map.1 member
    exact p.fits_toJson levels

theorem nodup_names_toJson (r : CheckReport) : r.toJson.names.Nodup := by
  have all : (["phase", "verdict"] ++ (["kind"] ++ (["failure"] ++ (["detail"] ++ ["partitions"])))).Nodup := by
    decide
  rw [toJson_eq]
  simp only [Json.names, List.map_append]
  refine all.sublist (.append (.refl ["phase", "verdict"]) ?_)
  exact .append (names_memberOf_sublist _ _) (.append (names_memberOf_sublist _ _)
    (.append (names_memberOf_sublist _ _) (names_memberOf_sublist _ _)))

/-- What a JSON value tells of a report. -/
structure Told (r : CheckReport) (v : Json) : Prop where
  surface : v.get? "phase" = some (.string r.surface.name)
  verdict : v.get? "verdict" = some (.string r.verdict.name)
  kind : v.get? "kind" = r.finding.kind?.map fun kind => .string kind.name
  failure : v.get? "failure" = r.finding.failure?.map fun failure => failure.toJson.sorted
  detail : v.get? "detail" = r.detail?.map .string
  partitions : v.get? "partitions" = if r.finding.partitions = [] then none
    else some (.array (r.finding.partitions.map fun p => p.toJson.sorted))

theorem told_sorted (r : CheckReport) : r.Told r.toJson.sorted := by
  have partitions : r.partitions?.map Json.sorted = if r.finding.partitions = [] then none
      else some (.array (r.finding.partitions.map fun p => p.toJson.sorted)) := by
    rw [partitions?]
    split
    · rfl
    · rw [Option.map_some, Json.sorted, List.map_map]
      rfl
  constructor <;> rw [Json.get?_sorted r.nodup_names_toJson, toJson_eq] <;>
    simp [Json.get?, Json.member?, List.lookup_append, lookup_entry, lookup_memberOf, partitions,
      Function.comp_def]

theorem Told.eq {r s : CheckReport} {v : Json} (h : r.Told v) (other : s.Told v) : r = s := by
  have surface : r.surface = s.surface :=
    Surface.name_injective (Json.string.inj (Option.some.inj (h.surface.symm.trans other.surface)))
  have verdict : r.verdict = s.verdict :=
    Verdict.name_injective (Json.string.inj (Option.some.inj (h.verdict.symm.trans other.verdict)))
  have detail : r.detail? = s.detail? := map_string_injective (h.detail.symm.trans other.detail)
  have kind : r.finding.kind? = s.finding.kind? :=
    Option.map_injective (fun a b same => FailureKind.name_injective (Json.string.inj same))
      (h.kind.symm.trans other.kind)
  have failure : r.finding.failure? = s.finding.failure? :=
    Option.map_injective (fun f g => Failure.eq_of_sorted_toJson) (h.failure.symm.trans other.failure)
  have partitions : r.finding.partitions = s.finding.partitions := by
    have same := h.partitions.symm.trans other.partitions
    split_ifs at same with none none' none'
    · rw [none, none']
    · exact List.map_injective_iff.2 (fun p q => PartitionReport.eq_of_sorted_toJson)
        (Json.array.inj (Option.some.inj same))
  have skipped : r.finding = .skipped ↔ s.finding = .skipped := by
    rw [← verdict_eq_skipped_iff, ← verdict_eq_skipped_iff, verdict]
  have finding := Finding.ext kind failure partitions skipped
  cases r
  cases s
  simp_all

/-- The JSON form of a report is one line, and what is read from it tells every part of the report. -/
theorem told_lines (r : CheckReport) :
    ∃ line v, r.lines .json = [line] ∧ Json.parse (Utf8.encode line) = .ok v ∧ r.Told v :=
  ⟨_, _, rfl, Json.parse_print (r.fits_toJson 124), r.told_sorted⟩

theorem lines_json_injective : Function.Injective fun r : CheckReport => r.lines .json := by
  intro r s same
  obtain ⟨line, v, printed, read, told⟩ := r.told_lines
  obtain ⟨line', w, printed', read', told'⟩ := s.told_lines
  obtain rfl : line = line' := List.cons.inj (printed.symm.trans (same.trans printed')) |>.1
  obtain rfl : v = w := Except.ok.inj (read.symm.trans read')
  exact told.eq told'

/-- The texts of a report besides its detail and the message of its failure. -/
def texts (r : CheckReport) : List String :=
  [r.surface.name, r.verdict.name] ++
    (r.finding.failure?.toList.flatMap fun failure => [toString failure.statusCode.toNat, failure.key]) ++
    r.finding.partitions.flatMap PartitionReport.cells

def headline (r : CheckReport) : List String :=
  ["phase=", r.surface.name, " verdict=", r.verdict.name] ++
    r.finding.failure?.toList.flatMap fun failure =>
      [" status=", toString failure.statusCode.toNat, " key=", failure.key, " message=",
        Quoted.quote failure.message]

theorem prettyLines_eq (r : CheckReport) :
    r.prettyLines = String.join r.headline ::
      (r.finding.partitions.map PartitionReport.line ++ r.detail?.toList.map ("  " ++ ·)) := by
  rw [prettyLines, headline]
  cases r.finding.failure? <;> simp [String.append_assoc]

/-- The lines for readers show every text of a report, the message of its failure in quotes. -/
theorem prettyLines_show (r : CheckReport) :
    (∀ text ∈ r.texts, Shown text (r.lines .pretty)) ∧
      (∀ failure ∈ r.finding.failure?, Shown (Quoted.quote failure.message) (r.lines .pretty)) ∧
      ∀ detail ∈ r.detail?, Shown detail (r.lines .pretty) := by
  have first {text : String} (h : text ∈ r.headline) : Shown text (r.lines .pretty) := by
    rw [lines, prettyLines_eq]
    exact ⟨_, List.mem_cons_self, infix_join h⟩
  refine ⟨fun text member => ?_, fun failure given => first ?_, fun detail given => ?_⟩
  · rcases List.mem_append.1 member with member | member
    · refine first ?_
      simp only [headline, List.mem_append, List.mem_flatMap, List.mem_cons] at member ⊢
      grind
    · obtain ⟨p, among, cell⟩ := List.mem_flatMap.1 member
      refine ⟨p.line, ?_, ?_⟩
      · rw [lines, prettyLines_eq]
        exact List.mem_cons_of_mem _ (List.mem_append_left _ (List.mem_map_of_mem among))
      · rw [p.line_eq]
        refine infix_join ?_
        simp only [PartitionReport.cells, List.mem_cons] at cell ⊢
        grind
  · simp [headline, Option.mem_def.1 given]
  · refine ⟨"  " ++ detail, ?_, ?_⟩
    · simp [lines, prettyLines_eq, Option.mem_def.1 given]
    · rw [String.toList_append]
      exact (List.suffix_append _ _).isInfix

theorem even_verdictTable (r : CheckReport) : r.verdictTable.Even := by
  intro row member
  rw [List.mem_singleton.1 member]
  cases r.finding.failure? <;> rfl

theorem even_partitionTable (partitions : List PartitionReport) : (partitionTable partitions).Even := by
  intro row member
  obtain ⟨p, -, rfl⟩ := List.mem_map.1 member
  rfl

/-- The tables show every line of every text of a report. -/
theorem tableLines_show (r : CheckReport) :
    (∀ text ∈ r.texts, ∀ part ∈ Table.cellLines text, Shown part (r.lines .table)) ∧
      (∀ failure ∈ r.finding.failure?, ∀ part ∈ Table.cellLines failure.message,
        Shown part (r.lines .table)) ∧
      ∀ detail ∈ r.detail?, Shown detail (r.lines .table) := by
  have row {cell part : String} (inside : cell ∈ r.verdictTable.rows.flatten)
      (h : part ∈ Table.cellLines cell) : Shown part (r.lines .table) := by
    obtain ⟨row, member, inside⟩ := List.mem_flatten.1 inside
    refine (Table.shown_draw r.even_verdictTable member inside h).mono fun line drawn => ?_
    simp [lines, tableLines, drawn]
  refine ⟨fun text member part h => ?_, fun failure given part h => row ?_ h, fun detail given => ?_⟩
  · rcases List.mem_append.1 member with member | member
    · refine row ?_ h
      simp only [verdictTable, List.flatten_singleton, List.mem_append]
      refine (List.mem_append.1 member).imp_right fun member => ?_
      obtain ⟨failure, given, cell⟩ := List.mem_flatMap.1 member
      rw [Option.mem_toList.1 given]
      exact List.mem_append_left [failure.message] cell
    · obtain ⟨p, among, cell⟩ := List.mem_flatMap.1 member
      have drawn := Table.shown_draw (even_partitionTable r.finding.partitions)
        (List.mem_map_of_mem among) cell h
      refine drawn.mono fun line drawn => ?_
      have some : r.finding.partitions ≠ [] := List.ne_nil_of_mem among
      simp [lines, tableLines, some, drawn]
  · simp [verdictTable, Option.mem_def.1 given]
  · exact shown_of_mem (by simp [lines, tableLines, Option.mem_def.1 given])

end CheckReport

namespace LintReport

/-- What a JSON value tells of a configuration that can be run. -/
structure Told (r : LintReport) (v : Json) : Prop where
  valid : v.get? "valid" = some (.bool true)
  source : v.get? "source" = some (.string r.sourceName)
  scope : v.get? "scope" = some (.string r.scopeName)
  publish : v.get? "on_publish" = some (.bool r.onPublish)
  subscribe : v.get? "on_subscribe" = some (.bool r.onSubscribe)

theorem fits_toJson (r : LintReport) (levels : Nat) : Json.Fits (levels + 1) r.toJson := by
  refine .object ?_
  simp [Json.Fits.string, Json.Fits.bool]

theorem told_sorted (r : LintReport) : r.Told r.toJson.sorted := by
  have distinct : r.toJson.names.Nodup := by simp [toJson, Json.names]
  constructor <;> rw [Json.get?_sorted distinct] <;>
    simp [toJson, Json.get?, Json.member?, lookup_entry]

theorem told_lines (r : LintReport) :
    ∃ line v, r.lines .json = [line] ∧ Json.parse (Utf8.encode line) = .ok v ∧ r.Told v :=
  ⟨_, _, rfl, Json.parse_print (r.fits_toJson 126), r.told_sorted⟩

def texts (r : LintReport) : List String :=
  [r.sourceName, r.scopeName, boolName r.onPublish, boolName r.onSubscribe]

theorem prettyLine_eq (r : LintReport) :
    r.prettyLine = String.join ["configuration ok: source=", r.sourceName, " scope=", r.scopeName,
      " on_publish=", boolName r.onPublish, " on_subscribe=", boolName r.onSubscribe] := by
  unfold prettyLine
  generalize r.sourceName = source, r.scopeName = scope, boolName r.onPublish = publish,
    boolName r.onSubscribe = subscribe
  simp only [String.join_cons, String.join_nil, String.append_assoc, String.append_empty]

theorem lines_show (r : LintReport) :
    ∀ text ∈ r.texts, Shown text (r.lines .pretty) ∧
      ∀ part ∈ Table.cellLines text, Shown part (r.lines .table) := by
  have even : r.table.Even := by
    intro row member
    rw [List.mem_singleton.1 member]
    rfl
  refine fun text member => ⟨⟨_, List.mem_singleton_self _, ?_⟩, fun part h => ?_⟩
  · rw [prettyLine_eq]
    refine infix_join ?_
    simp only [texts, List.mem_cons] at member ⊢
    grind
  · exact Table.shown_draw even (List.mem_singleton_self _) member h

end LintReport

end Command

end SchemaGate
