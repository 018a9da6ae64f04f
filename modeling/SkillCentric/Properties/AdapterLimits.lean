import SkillCentric.Properties.FilesystemTools
import SkillCentric.Runtime.CommandAdapters

/-!
# Limits of the adapters

A requested limit of zero is read as no request, and the default takes its place.  A stream that is
cut through a character gets a replacement character of three bytes, which fits exactly where the
cut dropped three bytes.
-/

namespace SkillCentric

namespace AdapterLimits

open Files FilesystemTools

variable {tree : FileTree} {root : List Text} {payload result : JsonObject} {field refusal : Text}
  {value : Json} {limit requested : Nat} {default : Int}

/-- A float is written with digits, a point, signs and an exponent. -/
def Written (value : Json) : Prop :=
  ∀ digits, value = .float digits → ∀ c ∈ digits, c ≤ '9' ∨ c = 'e'

/-- A payload requests a limit. -/
structure Requests (payload : JsonObject) (field : Text) (value : Json) (limit : Nat) : Prop where
  given : (Json.obj payload).get? field = some value
  written : Written value
  reads : value.toInt = .ok limit

theorem digitsValue_eq_zero {digits : Text} (small : ∀ c ∈ digits, c.toNat ≤ 48) :
    Json.digitsValue digits = 0 := by
  have folded : digits.foldl (fun value c => 10 * value + (c.toNat - 48)) 0 = 0 := by
    induction digits with
    | nil => rfl
    | cons c rest ih =>
        have least : c.toNat - 48 = 0 := by
          have bound := small c List.mem_cons_self
          omega
        rw [List.foldl_cons, least]
        exact ih fun other listed => small other (List.mem_cons_of_mem _ listed)
  exact folded

theorem nearestDouble_zero : Json.nearestDouble 0 = 0 := by decide

theorem floatIntegral_eq_zero {digits : Text} (small : ∀ c ∈ digits, c.toNat ≤ 48 ∨ c = 'e') :
    (Json.floatIntegral digits).1 = 0 := by
  unfold Json.floatIntegral
  rw [List.span_eq_takeWhile_dropWhile]
  simp only
  generalize mantissa_eq : digits.takeWhile (fun c => decide (c ≠ 'e')) = mantissa
  have mantissa_small : ∀ c ∈ mantissa, c.toNat ≤ 48 := by
    intro c listed
    rw [← mantissa_eq] at listed
    have plain := List.mem_takeWhile_imp listed
    exact (small c ((List.takeWhile_prefix _).subset listed)).resolve_right
      (of_decide_eq_true plain)
  rw [List.span_eq_takeWhile_dropWhile]
  simp only
  have whole_small : ∀ c ∈ mantissa.takeWhile (fun c => decide (c ≠ '.')), c.toNat ≤ 48 :=
    fun c listed => mantissa_small c ((List.takeWhile_prefix _).subset listed)
  have fraction_small : ∀ c ∈ (mantissa.dropWhile (fun c => decide (c ≠ '.'))).drop 1,
      c.toNat ≤ 48 :=
    fun c listed =>
      mantissa_small c ((List.dropWhile_suffix _).subset (List.mem_of_mem_drop listed))
  split
  · exact digitsValue_eq_zero whole_small
  · rfl
  · rw [digitsValue_eq_zero (List.forall_mem_append.mpr ⟨whole_small, fraction_small⟩),
      Nat.zero_mul]
    exact nearestDouble_zero

theorem falsy_zero (requests : Requests payload field value limit) (falsy : value.truthy = false) :
    limit = 0 := by
  have reads := requests.reads
  cases value with
  | int number =>
      have number_zero : number = 0 := by simpa [Json.truthy] using falsy
      rw [Json.toInt, number_zero] at reads
      exact (Int.ofNat.inj (Except.ok.inj reads)).symm
  | bool flag =>
      cases falsy
      exact (Int.ofNat.inj (Except.ok.inj reads)).symm
  | float digits =>
      have small : ∀ c ∈ digits, c.toNat ≤ 48 ∨ c = 'e' := by
        intro c listed
        rcases requests.written digits rfl c listed with bound | exponent
        · have digit := List.any_eq_false.mp falsy c listed
          simp only [Bool.or_eq_true, Bool.and_eq_true, decide_eq_true_eq, not_or, not_and] at digit
          refine .inl ?_
          by_contra greater
          have least : '1' ≤ c := Nat.lt_of_not_le greater
          exact digit.1 least bound
        · exact .inr exponent
      have zero : (Json.floatInt digits).1 = 0 := by
        unfold Json.floatInt
        split
        · rw [floatIntegral_eq_zero fun c listed => small c (List.mem_cons_of_mem _ listed)]
          rfl
        · rw [floatIntegral_eq_zero small]
          rfl
      rw [Json.toInt] at reads
      split_ifs at reads
      rw [zero] at reads
      exact (Int.ofNat.inj (Except.ok.inj reads)).symm
  | str text =>
      have empty : text = [] := by simpa [Json.truthy] using falsy
      rw [empty] at reads
      cases reads
  | null => cases reads
  | arr items => cases reads
  | obj fields => cases reads

theorem limitField_truthy (requests : Requests payload field value limit)
    (truthy : value.truthy = true) : limitField payload field default refusal = .ok limit := by
  unfold limitField
  rw [requests.given, Json.orElse, if_pos truthy, requests.reads]
  rfl

theorem limitField_falsy (requests : Requests payload field value limit)
    (falsy : value.truthy = false) (positive : 0 ≤ default) :
    limitField payload field default refusal = .ok default.toNat := by
  unfold limitField
  rw [requests.given, Json.orElse, falsy]
  change (if default < 0 then _ else _) = _
  rw [if_neg (Int.not_lt.mpr positive)]

theorem requested_unique {first second : List Text} {path : Text}
    (one : Requested tree root payload path first)
    (other : Requested tree root payload path second) :
    first = second :=
  Except.ok.inj (one.symm.trans other)

/-- An answer has at most so many bytes of a file. -/
def ReadsAtMost (result : JsonObject) (limit : Nat) : Prop :=
  ∃ data : List UInt8, (Json.obj result).item "bytes_read" = .int data.length ∧
    (Json.obj result).item "content" = .str (Utf8.decode data) ∧ data.length ≤ limit

theorem read_exact (requests : Requests payload "max_bytes" value limit)
    (read : FilesystemReadAdapter.invoke tree root payload = .ok result) :
    ReadsAtMost result (min limit FilesystemReadAdapter.maxFileBytes) ↔
      value.truthy = true ∨
        ∃ target, Requested tree root payload [] target ∧ tree.node? target = some (.file []) := by
  obtain ⟨requested, target, content, limited, asked, -, stored, -, counted, decoded⟩ :=
    read_inside read
  have taken := List.length_take_le (min requested FilesystemReadAdapter.maxFileBytes) content
  cases counts : value.truthy with
  | true =>
      rw [limitField_truthy requests counts] at limited
      cases limited
      exact iff_of_true ⟨_, counted, decoded, taken⟩ (.inl rfl)
  | false =>
      rw [limitField_falsy requests counts (by decide)] at limited
      cases limited
      have zero := falsy_zero requests counts
      subst zero
      constructor
      · rintro ⟨data, data_counted, -, bounded⟩
        have same := data_counted.symm.trans counted
        rw [Json.int.injEq, Nat.cast_inj] at same
        refine .inr ⟨target, asked, ?_⟩
        have none_taken : (content.take (min (Int.toNat 20000) 100000)).length = 0 := by
          have none_read : data.length = 0 := Nat.le_zero.mp bounded
          exact same.symm.trans none_read
        rw [List.length_take] at none_taken
        have empty : content = [] := List.eq_nil_of_length_eq_zero (by omega)
        rw [stored, empty]
      · rintro (truthy | ⟨other, other_asked, empty⟩)
        · cases truthy
        · rw [requested_unique other_asked asked, stored] at empty
          cases empty
          exact ⟨_, counted, decoded, Nat.zero_le _⟩

/-- A listing has at most so many entries. -/
def ListsAtMost (result : JsonObject) (limit : Nat) : Prop :=
  ∃ entries, (Json.obj result).item "entries" = .arr entries ∧ entries.length ≤ limit

theorem list_exact {casefold : Text → Text} (requests : Requests payload "max_entries" value limit)
    (listed : FilesystemListAdapter.invoke casefold tree root payload = .ok result) :
    ListsAtMost result (min limit FilesystemListAdapter.maxEntries) ↔
      value.truthy = true ∨
        ∃ target, Requested tree root payload "." target ∧ tree.children target = [] := by
  obtain ⟨requested, target, entries, limited, asked, -, -, -, answered, counted, -⟩ :=
    list_inside listed
  cases counts : value.truthy with
  | true =>
      rw [limitField_truthy requests counts] at limited
      cases limited
      refine iff_of_true ⟨entries, answered, ?_⟩ (.inl rfl)
      rw [counted]
      exact min_le_left _ _
  | false =>
      rw [limitField_falsy requests counts (by decide)] at limited
      cases limited
      have zero := falsy_zero requests counts
      subst zero
      constructor
      · rintro ⟨others, others_answered, bounded⟩
        have same := others_answered.symm.trans answered
        cases same
        have none_listed : min (min (Int.toNat 100) 500) (tree.children target).length = 0 :=
          counted.symm.trans (Nat.le_zero.mp bounded)
        exact .inr ⟨target, asked, List.eq_nil_of_length_eq_zero (by omega)⟩
      · rintro (truthy | ⟨other, other_asked, empty⟩)
        · cases truthy
        · rw [requested_unique other_asked asked] at empty
          rw [empty, List.length_nil, Nat.min_zero] at counted
          exact ⟨entries, answered, by rw [counted]; exact Nat.zero_le _⟩

/-- A text has at most so many bytes, and is a start of an output, except that its last character
may stand for a part of the next one. -/
structure Limited (output text : Text) (limit : Nat) : Prop where
  bytes : (encodeUtf8 text).length ≤ limit
  start : text <+: output ∨
    ∃ kept c, kept ++ [c] <+: output ∧ text = kept ++ [Utf8.replacement]

/-- An output fits in a limit, or the cut is between two characters, or after three bytes of one. -/
def KeepsLimit (output : Text) (limit : Nat) : Prop :=
  (encodeUtf8 output).length ≤ limit ∨ (Utf8.cutAt limit output).2 = 0 ∨
    (Utf8.cutAt limit output).2 = 3

theorem limitText_start (output : Text) (limit : Nat) :
    (limitText output limit).1 <+: output ∨
      ∃ kept c,
        kept ++ [c] <+: output ∧ (limitText output limit).1 = kept ++ [Utf8.replacement] := by
  unfold limitText
  simp only
  split_ifs with fits
  · exact .inl List.prefix_rfl
  · have decoded := Utf8.decode_take limit output
    change Utf8.decode ((encodeUtf8 output).take limit) = _ at decoded
    simp only [decoded]
    by_cases between : (Utf8.cutAt limit output).2 = 0
    · rw [if_pos between, List.append_nil]
      exact .inl (Utf8.cutAt_prefix limit output)
    · rw [if_neg between]
      obtain ⟨c, begins⟩ := Utf8.cutAt_next between
      exact .inr ⟨_, c, begins, rfl⟩

private theorem encodeUtf8_replacement : (encodeUtf8 [Utf8.replacement]).length = 3 := by decide

theorem limitText_bytes (output : Text) (limit : Nat) :
    (encodeUtf8 (limitText output limit).1).length ≤ limit ↔ KeepsLimit output limit := by
  unfold limitText KeepsLimit
  simp only
  split_ifs with fits
  · exact iff_of_true fits (.inl fits)
  · have decoded := Utf8.decode_take limit output
    change Utf8.decode ((encodeUtf8 output).take limit) = _ at decoded
    have whole : ((Utf8.cutAt limit output).1.flatMap String.utf8EncodeChar).length +
        (Utf8.cutAt limit output).2 = limit := Utf8.cutAt_length (Nat.lt_of_not_le fits)
    have part := Utf8.cutAt_lt_four limit output
    have replaced := encodeUtf8_replacement
    change (encodeUtf8 (Utf8.cutAt limit output).1).length + _ = _ at whole
    simp only [decoded]
    by_cases between : (Utf8.cutAt limit output).2 = 0
    · rw [if_pos between, List.append_nil]
      exact iff_of_true (by omega) (.inr (.inl between))
    · have appended : encodeUtf8 ((Utf8.cutAt limit output).1 ++ [Utf8.replacement]) =
          encodeUtf8 (Utf8.cutAt limit output).1 ++ encodeUtf8 [Utf8.replacement] :=
        List.flatMap_append
      rw [if_neg between, appended, List.length_append]
      omega

theorem limitText_exact (output : Text) (limit : Nat) :
    Limited output (limitText output limit).1 limit ↔ KeepsLimit output limit := by
  rw [← limitText_bytes]
  exact ⟨Limited.bytes, fun bounded => ⟨bounded, limitText_start output limit⟩⟩

/-- Both streams of an answer about a process are limited. -/
def StreamsLimited (completed : CompletedProcess) (result : JsonObject) (limit : Nat) : Prop :=
  (∃ text, (Json.obj result).item "stdout" = .str text ∧ Limited completed.stdout text limit) ∧
    ∃ text, (Json.obj result).item "stderr" = .str text ∧ Limited completed.stderr text limit

theorem streams_exact {completed : CompletedProcess}
    (stdout : (Json.obj result).item "stdout" = .str (limitText completed.stdout limit).1)
    (stderr : (Json.obj result).item "stderr" = .str (limitText completed.stderr limit).1) :
    StreamsLimited completed result limit ↔
      KeepsLimit completed.stdout limit ∧ KeepsLimit completed.stderr limit := by
  unfold StreamsLimited
  simp only [stdout, stderr, Json.str.injEq, exists_eq_left', limitText_exact]

variable {run : List Text → Except PyError CompletedProcess} {args : List Text}
  {completed : CompletedProcess}

theorem git_exact (read : GitReadAdapter.arguments payload = .ok args)
    (ran : run ("git" :: args) = .ok completed)
    (invoked : GitReadAdapter.invoke run payload = .ok result) :
    StreamsLimited completed result GitReadAdapter.maxOutputBytes ↔
      KeepsLimit completed.stdout GitReadAdapter.maxOutputBytes ∧
        KeepsLimit completed.stderr GitReadAdapter.maxOutputBytes := by
  unfold GitReadAdapter.invoke at invoked
  rw [read] at invoked
  change (run ("git" :: args) >>= _) = _ at invoked
  rw [ran] at invoked
  cases invoked
  exact streams_exact rfl rfl

theorem test_exact (read : TestRunnerAdapter.arguments payload = .ok args)
    (ran : run (TestRunnerAdapter.command ++ args) = .ok completed)
    (invoked : TestRunnerAdapter.invoke run payload = .ok result) :
    StreamsLimited completed result TestRunnerAdapter.maxOutputBytes ↔
      KeepsLimit completed.stdout TestRunnerAdapter.maxOutputBytes ∧
        KeepsLimit completed.stderr TestRunnerAdapter.maxOutputBytes := by
  unfold TestRunnerAdapter.invoke at invoked
  rw [read] at invoked
  change (run (TestRunnerAdapter.command ++ args) >>= _) = _ at invoked
  rw [ran] at invoked
  cases invoked
  exact streams_exact rfl rfl

/-- When the adapters respect their limits: a requested zero that counts as false is respected only
for an empty file or folder, and a stream only when it fits or is cut where a replacement does. -/
theorem adapter_limits_exact (payload result : JsonObject) :
    (∀ tree root value limit, Requests payload "max_bytes" value limit →
      FilesystemReadAdapter.invoke tree root payload = .ok result →
      (ReadsAtMost result (min limit FilesystemReadAdapter.maxFileBytes) ↔
        value.truthy = true ∨
          ∃ target, Requested tree root payload [] target ∧
            tree.node? target = some (.file []))) ∧
    (∀ casefold tree root value limit, Requests payload "max_entries" value limit →
      FilesystemListAdapter.invoke casefold tree root payload = .ok result →
      (ListsAtMost result (min limit FilesystemListAdapter.maxEntries) ↔
        value.truthy = true ∨
          ∃ target, Requested tree root payload "." target ∧ tree.children target = [])) ∧
    (∀ run args completed, GitReadAdapter.arguments payload = .ok args →
      run ("git" :: args) = .ok completed → GitReadAdapter.invoke run payload = .ok result →
      (StreamsLimited completed result GitReadAdapter.maxOutputBytes ↔
        KeepsLimit completed.stdout GitReadAdapter.maxOutputBytes ∧
          KeepsLimit completed.stderr GitReadAdapter.maxOutputBytes)) ∧
    ∀ run args completed, TestRunnerAdapter.arguments payload = .ok args →
      run (TestRunnerAdapter.command ++ args) = .ok completed →
      TestRunnerAdapter.invoke run payload = .ok result →
      (StreamsLimited completed result TestRunnerAdapter.maxOutputBytes ↔
        KeepsLimit completed.stdout TestRunnerAdapter.maxOutputBytes ∧
          KeepsLimit completed.stderr TestRunnerAdapter.maxOutputBytes) :=
  ⟨fun _ _ _ _ => read_exact, fun _ _ _ _ _ => list_exact, fun _ _ _ => git_exact,
    fun _ _ _ => test_exact⟩

/-- A request for no bytes of a file. -/
def noBytes : JsonObject := [("path", .str "notes"), ("max_bytes", .int 0)]

/-- The answer to it. -/
def allBytes : JsonObject := [
  ("path", .str "/repo/notes"), ("bytes_read", .int 4), ("content", .str "kept"),
  ("truncated", .bool false)]

theorem noBytes_requests : Requests noBytes "max_bytes" (.int 0) 0 where
  given := rfl
  written := nofun
  reads := rfl

theorem noBytes_read : FilesystemReadAdapter.invoke linkedTree ["repo"] noBytes = .ok allBytes := by
  decide

theorem no_bytes_unlimited :
    ¬ReadsAtMost allBytes (min 0 FilesystemReadAdapter.maxFileBytes) := by
  rw [(adapter_limits_exact noBytes allBytes).1 linkedTree ["repo"] (.int 0) 0 noBytes_requests
    noBytes_read]
  rintro (given | ⟨target, requested, empty⟩)
  · cases given
  · cases requested
    cases empty

/-- A request for no bytes is answered with the whole file. -/
theorem no_bytes_exceeded :
    Requests noBytes "max_bytes" (.int 0) 0 ∧
      FilesystemReadAdapter.invoke linkedTree ["repo"] noBytes = .ok allBytes ∧
      ¬ ReadsAtMost allBytes (min 0 FilesystemReadAdapter.maxFileBytes) := by
  refine ⟨noBytes_requests, noBytes_read, ?_⟩
  rintro ⟨data, counted, -, bounded⟩
  have four : (4 : Int) = data.length := Json.int.inj counted
  rw [Nat.zero_min] at bounded
  omega

end AdapterLimits

end SkillCentric
