import KvrocksOperator.Cluster.Kvrocks
import KvrocksOperator.Interaction.Recorded

/-!
# What the answers of the kvrocks-controller are taken for

`CreateCluster`, `GetShards` and `GetNodes` return the `err` variable of the preceding call when the status code is
not the one they want, and that error is nil.  Any such answer is taken for success, or for the news that there is no
such shard, and the callers go on.  The log of an execution says which answers there were: this module states, for
each method and each caller, for which logs no failure is taken for success.
-/

namespace KvrocksOperator.Cluster.Responses

open Interaction

/-- What the controller and the API server were asked, with their answers. -/
abbrev Log := List (Entry operator)

def statusNotFound : ℕ := 404

/-- The status code of an answer of the controller, if there was one. -/
def statusOf : Entry operator → Option ℕ
  | ⟨.http _ _, .ok response⟩ => some response.statusCode
  | _ => none

/-- The controller has answered with a status code. -/
def Answered (code : ℕ) (log : Log) : Prop := ∃ entry ∈ log, statusOf entry = some code

/-- The answer, if there was one, says that the object is there. -/
def Found (status : Option ℕ) : Prop := ∀ code, status = some code → code = statusOK

/-- The answer, if there was one, says that the object is there or that it does not exist. -/
def Plain (status : Option ℕ) : Prop := ∀ code, status = some code → code = statusOK ∨ code = statusNotFound

/-- The answer lists no shards. -/
def ListsNone : Entry operator → Prop
  | ⟨.http _ (.getShards _ _), .ok response⟩ =>
    response.statusCode = statusOK ∧ response.body = .ok (some [])
  | _ => False

/-! ## The methods of the client -/

/-- What `GetNodes` makes of an answer. -/
def readShard : Except GoError (Response (Option ShardData)) → Outcome GoError (Option ShardData)
  | .error error => .err error
  | .ok response =>
    if response.statusCode ≠ statusOK then .ok none
    else
      match response.body with
      | .error error => .err error
      | .ok none => .err (.text "unexpected response format")
      | .ok (some shard) => .ok (some shard)

/-- What `GetShards` makes of an answer. -/
def readShards : Except GoError (Response (Option (List ShardData))) → Outcome GoError (List ShardData)
  | .error error => .err error
  | .ok response =>
    if response.statusCode ≠ statusOK then .ok []
    else
      match response.body with
      | .error error => .err error
      | .ok none => .err (.text "unexpected response format")
      | .ok (some shards) => .ok shards

/-- `GetShards` never panics. -/
theorem readShards_ends {holds crashes : Prop}
    (reply : Except GoError (Response (Option (List ShardData)))) (h : holds) :
    (readShards reply).Ends holds crashes fun _ ↦ holds := by
  match reply with
  | .error error => exact h
  | .ok ⟨statusCode, body⟩ =>
    simp only [readShards]
    split
    · exact h
    · match body with
      | .error error => exact h
      | .ok none => exact h
      | .ok (some shards) => exact h

/-- What a method that wants one status code makes of an answer. -/
def expect {β : Type} (expected : ℕ) : Except GoError (Response β) → Outcome GoError Unit
  | .error error => .err error
  | .ok response =>
    if response.statusCode ≠ expected then .err (Controller.unexpectedStatus response.statusCode) else .ok ()

/-- `CreateCluster` takes every answer for success. -/
def anyAnswer {β : Type} : Except GoError (Response β) → Outcome GoError Unit
  | .error error => .err error
  | .ok _ => .ok ()

section Methods

variable (client : Controller.Client)

/-- `GetNodes` is one request. -/
theorem getNodes_program (shardIndex : ℤ) : (Controller.getNodes client shardIndex).program =
    (ask (.http client.endPoint (.getNodes client.ns client.clusterName shardIndex))).bind
      fun reply ↦ .done (readShard reply) := by
  apply congrArg (Program.call _)
  funext reply
  rcases reply with error | ⟨statusCode, error | found⟩
  · rfl
  · by_cases hstatus : statusCode = statusOK <;> simp [readShard, hstatus, Fallible.resume, Fallible.ofReply]
  · by_cases hstatus : statusCode = statusOK <;> cases found <;>
      simp [readShard, hstatus, Fallible.resume, Fallible.ofReply]

theorem getShards_program : (Controller.getShards client).program =
    (ask (.http client.endPoint (.getShards client.ns client.clusterName))).bind
      fun reply ↦ .done (readShards reply) := by
  apply congrArg (Program.call _)
  funext reply
  rcases reply with error | ⟨statusCode, error | found⟩
  · rfl
  · by_cases hstatus : statusCode = statusOK <;> simp [readShards, hstatus, Fallible.resume, Fallible.ofReply]
  · by_cases hstatus : statusCode = statusOK <;> cases found <;>
      simp [readShards, hstatus, Fallible.resume, Fallible.ofReply]

/-- One request and a check of its status code. -/
theorem sendExpecting_program (request : Request) (expected : ℕ) :
    (Controller.sendExpecting client request expected).program =
      (ask (.http client.endPoint request)).bind fun reply ↦ .done (expect expected reply) := by
  apply congrArg (Program.call _)
  funext reply
  match reply with
  | .error error => rfl
  | .ok ⟨statusCode, body⟩ =>
    by_cases hstatus : statusCode = expected
    · simp [expect, hstatus, Fallible.resume, Fallible.ofReply]
    · simp [expect, hstatus, Fallible.resume, Fallible.ofReply]

theorem createCluster_program (replicas : ℤ) (nodes : List String) (password : String) :
    (Controller.createCluster client replicas nodes password).program =
      (ask (.http client.endPoint (.createCluster client.ns
        { name := client.clusterName, nodes := nodes, replicas := replicas, password := password }))).bind
        fun reply ↦ .done (anyAnswer reply) := by
  apply congrArg (Program.call _)
  funext reply
  cases reply <;> rfl

/-- `CreateCluster` reports success only after a 201 exactly when there is no other answer. -/
theorem createCluster_iff {replicas : ℤ} {nodes : List String} {password : String} {outcome : Outcome GoError Unit}
    {log : Log}
    (hexec : Exec recorded (Controller.createCluster client replicas nodes password).program [] outcome log) :
    (outcome = .ok () → Answered statusCreated log) ↔
      ∀ entry ∈ log, ∀ code, statusOf entry = some code → code = statusCreated := by
  rw [createCluster_program] at hexec
  obtain ⟨reply, rfl, rfl⟩ := Program.exec_recorded_once.mp hexec
  cases reply with
  | error error => simp [anyAnswer, statusOf]
  | ok response => simp [anyAnswer, statusOf, Answered]

/-- `GetShards` returns no data only when the controller has none exactly when the status code is 200 or
404. -/
theorem getShards_iff {outcome : Outcome GoError (List ShardData)} {log : Log}
    (hexec : Exec recorded (Controller.getShards client).program [] outcome log) :
    (outcome = .ok [] → Answered statusNotFound log ∨ ∃ entry ∈ log, ListsNone entry) ↔
      ∀ entry ∈ log, Plain (statusOf entry) := by
  rw [getShards_program] at hexec
  obtain ⟨reply, rfl, rfl⟩ := Program.exec_recorded_once.mp hexec
  rcases reply with error | ⟨statusCode, error | found⟩
  · simp [readShards, statusOf, Plain]
  · by_cases hstatus : statusCode = statusOK <;> simp [readShards, hstatus, statusOf, Plain, Answered, ListsNone]
  · by_cases hstatus : statusCode = statusOK <;> cases found <;>
      simp +contextual [readShards, hstatus, statusOf, Plain, Answered, ListsNone]

/-- `GetNodes` returns no shard only when the controller has none exactly when the status code is 200 or
404. -/
theorem getNodes_iff {shardIndex : ℤ} {outcome : Outcome GoError (Option ShardData)} {log : Log}
    (hexec : Exec recorded (Controller.getNodes client shardIndex).program [] outcome log) :
    (outcome = .ok none → Answered statusNotFound log) ↔ ∀ entry ∈ log, Plain (statusOf entry) := by
  rw [getNodes_program] at hexec
  obtain ⟨reply, rfl, rfl⟩ := Program.exec_recorded_once.mp hexec
  rcases reply with error | ⟨statusCode, error | found⟩
  · simp [readShard, statusOf, Plain]
  · by_cases hstatus : statusCode = statusOK <;> simp [readShard, hstatus, statusOf, Plain, Answered]
  · by_cases hstatus : statusCode = statusOK <;> cases found <;>
      simp +contextual [readShard, hstatus, statusOf, Plain, Answered]

end Methods

/-! ## Reading and creating shards -/

/-- The status code of an answer to a read of one shard. -/
def nodeRead : Entry operator → Option (Option ℕ)
  | ⟨.http endPoint (.getNodes ns cluster shardIndex), reply⟩ =>
    some (statusOf ⟨.http endPoint (.getNodes ns cluster shardIndex), reply⟩)
  | _ => none

/-- The reads of single shards, oldest first. -/
def nodeReads (log : Log) : List (Option ℕ) := log.filterMap nodeRead

/-- The addresses of a shard that is created. -/
def createdNodes : Entry operator → Option (List String)
  | ⟨.http _ (.createShard _ _ option), _⟩ => some option.nodes
  | _ => none

/-- The controller says that it has no shard at a position. -/
def SaysMissing (index : ℕ) : Entry operator → Prop
  | ⟨.http _ (.getNodes _ _ asked), .ok response⟩ =>
    asked = index ∧ response.statusCode = statusNotFound
  | _ => False

/-- Whenever a shard is created, the controller has just said that it has none at that position. -/
def CreatesMissing (stsNodes : Matrix) (log : Log) : Prop :=
  ∀ before entry nodes, before ++ [entry] <+: log → createdNodes entry = some nodes →
    ∃ index shard last, stsNodes[index]? = some shard ∧ nodes = shard.map nodeAddr ∧
      before.getLast? = some last ∧ SaysMissing index last

/-- What an answer to a read of `updateCluster` has to be.  The first loop reads every shard once and creates those
that are missing; the second one reads them again and needs all that are not empty. -/
def Fits (stsNodes : Matrix) (position : ℕ) (status : Option ℕ) : Prop :=
  if position < stsNodes.length then Plain status
  else Found status ∨ stsNodes[position - stsNodes.length]? = some []

/-- All reads are answered as `updateCluster` takes them. -/
def ReadsFit (stsNodes : Matrix) (log : Log) : Prop := ∀ read ∈ (nodeReads log).zipIdx, Fits stsNodes read.2 read.1

variable {status : Option ℕ}

section Logs

variable {stsNodes : Matrix} {log : Log} {entry : Entry operator}

theorem createsMissing_concat_iff : CreatesMissing stsNodes (log ++ [entry]) ↔ CreatesMissing stsNodes log ∧
      ∀ nodes, createdNodes entry = some nodes →
        ∃ index shard last, stsNodes[index]? = some shard ∧ nodes = shard.map nodeAddr ∧
          log.getLast? = some last ∧ SaysMissing index last := by
  constructor
  · intro h
    refine ⟨fun before created nodes hstart ↦ ?_, fun nodes ↦ h log entry nodes List.prefix_rfl⟩
    exact h before created nodes (hstart.trans (List.prefix_append log [entry]))
  · rintro ⟨h, hlast⟩ before created nodes hstart hcreated
    rcases List.prefix_concat_iff.mp hstart with heq | hbefore
    · obtain ⟨rfl, hentry⟩ := List.append_inj' heq rfl
      obtain rfl : created = entry := by simpa using hentry
      exact hlast nodes hcreated
    · exact h before created nodes hbefore hcreated

theorem createsMissing_concat_of_none (h : createdNodes entry = none) :
    CreatesMissing stsNodes (log ++ [entry]) ↔ CreatesMissing stsNodes log := by
  simp [createsMissing_concat_iff, h]

theorem nodeReads_concat_of_none (h : nodeRead entry = none) : nodeReads (log ++ [entry]) = nodeReads log := by
  simp [nodeReads, h]

theorem nodeReads_concat (h : nodeRead entry = some status) :
    nodeReads (log ++ [entry]) = nodeReads log ++ [status] := by
  simp [nodeReads, h]

theorem readsFit_concat_of_none (h : nodeRead entry = none) :
    ReadsFit stsNodes (log ++ [entry]) ↔ ReadsFit stsNodes log := by
  rw [ReadsFit, nodeReads_concat_of_none h, ReadsFit]

theorem readsFit_concat (h : nodeRead entry = some status) :
    ReadsFit stsNodes (log ++ [entry]) ↔ ReadsFit stsNodes log ∧ Fits stsNodes (nodeReads log).length status := by
  simp [ReadsFit, nodeReads_concat h, List.zipIdx_append, or_imp, forall_and]

/-- So far shards were created only where there were none exactly when the reads were answered as they are taken, and
there were so many of them. -/
structure Told (stsNodes : Matrix) (count : ℕ) (log : Log) : Prop where
  reads : (nodeReads log).length = count
  creates : CreatesMissing stsNodes log ↔ ReadsFit stsNodes log

/-- An entry that neither reads nor creates a shard. -/
theorem Told.neutral {count : ℕ} (h : Told stsNodes count log) (hread : nodeRead entry = none)
    (hcreated : createdNodes entry = none) :
    Told stsNodes count (log ++ [entry]) where
  reads := by rw [nodeReads_concat_of_none hread, h.reads]
  creates := by rw [createsMissing_concat_of_none hcreated, readsFit_concat_of_none hread, h.creates]

/-- A read that is answered as it is taken. -/
theorem Told.read {count : ℕ} (h : Told stsNodes count log) (hread : nodeRead entry = some status)
    (hcreated : createdNodes entry = none) (hfits : Fits stsNodes count status) :
    Told stsNodes (count + 1) (log ++ [entry]) where
  reads := by rw [nodeReads_concat hread, List.length_append, h.reads, List.length_singleton]
  creates := by
    rw [createsMissing_concat_of_none hcreated, readsFit_concat hread, h.reads, h.creates]
    exact (and_iff_left hfits).symm

/-- A shard is created after an answer other than 200: this is right exactly if the answer was 404. -/
theorem Told.create {count : ℕ} {shard : List Node} (h : Told stsNodes count log)
    (hshard : stsNodes[count]? = some shard) {endPoint ns cluster : String}
    {response : Response (Option ShardData)} (hstatus : response.statusCode ≠ statusOK)
    (hread : nodeRead entry = none) (hcreated : createdNodes entry = some (shard.map nodeAddr)) :
    Told stsNodes (count + 1) (log ++ [⟨.http endPoint (.getNodes ns cluster count), .ok response⟩] ++ [entry]) where
  reads := by
    rw [nodeReads_concat_of_none hread, nodeReads_concat rfl, List.length_append, h.reads, List.length_singleton]
  creates := by
    obtain ⟨hcount, -⟩ := List.getElem?_eq_some_iff.mp hshard
    have hmissing : (∃ index nodes last, stsNodes[index]? = some nodes ∧ shard.map nodeAddr = nodes.map nodeAddr ∧
        (log ++ [(⟨.http endPoint (.getNodes ns cluster count), .ok response⟩ : Entry operator)]).getLast? =
          some last ∧ SaysMissing index last) ↔ response.statusCode = statusNotFound := by
      constructor
      · rintro ⟨index, nodes, last, -, -, hlast, hmissing⟩
        obtain rfl := Option.some.inj (List.getLast?_concat.symm.trans hlast)
        exact hmissing.2
      · intro hnotFound
        exact ⟨count, shard, _, hshard, rfl, List.getLast?_concat, rfl, hnotFound⟩
    have hfits : Fits stsNodes count (some response.statusCode) ↔ response.statusCode = statusNotFound := by
      simp [Fits, hcount, Plain, hstatus]
    rw [createsMissing_concat_iff, createsMissing_concat_of_none rfl, readsFit_concat_of_none hread,
      readsFit_concat rfl, h.reads, h.creates]
    simp only [hcreated, Option.some.injEq, forall_eq', hmissing]
    exact and_congr_right fun _ ↦ hfits.symm

end Logs

/-! ## `updateCluster` -/

section Update

variable {client : Controller.Client} {password : String} {stsNodes : Matrix} {count : ℕ}
  {log : Log} {fail crash : Log → Prop}

/-- One call to the controller, whose reply is decoded. -/
theorem ends_once {α : Type} {function : Go α} {request : Call} {read : request.Reply → Outcome GoError α}
    (hfunction : function.program = (ask request).bind fun reply ↦ .done (read reply)) {post : α → Log → Prop}
    (h : ∀ reply, (read reply).Ends (fail (log ++ [⟨request, reply⟩]))
      (crash (log ++ [⟨request, reply⟩])) fun value ↦ post value (log ++ [⟨request, reply⟩])) :
    function.Ends (.sequential recorded) fail crash post log := by
  unfold Fallible.Ends
  rw [hfunction]
  rintro reply later rfl
  exact h reply

/-- A method that wants one status code leaves one entry, whatever it returns. -/
theorem sendExpecting_ends {request : Request} {expected : ℕ} {inv : Log → Prop}
    (hinv : ∀ reply, inv (log ++ [⟨.http client.endPoint request, reply⟩])) (hfail : ∀ log, inv log → fail log) :
    (Controller.sendExpecting client request expected).Ends (.sequential recorded) fail crash (fun _ ↦ inv) log := by
  apply ends_once (sendExpecting_program client request expected)
  intro reply
  cases reply with
  | error error => exact hfail _ (hinv _)
  | ok response =>
    simp only [expect]
    split
    · exact hfail _ (hinv _)
    · exact hinv _

/-- `GetNodes` leaves one entry.  It returns no shard exactly after an answer other than 200. -/
theorem getNodes_ends {shardIndex : ℤ} {found missing : Log → Prop} (hfound : ∀ reply, Found (statusOf
        ⟨.http client.endPoint (.getNodes client.ns client.clusterName shardIndex), reply⟩) →
      found (log ++ [⟨.http client.endPoint (.getNodes client.ns client.clusterName shardIndex), reply⟩]))
    (hmissing : ∀ response, response.statusCode ≠ statusOK → missing (log ++
        [⟨.http client.endPoint (.getNodes client.ns client.clusterName shardIndex), .ok response⟩]))
    (hfail : ∀ log, found log → fail log) :
    (Controller.getNodes client shardIndex).Ends (.sequential recorded) fail crash
      (fun result later ↦ if result = none then missing later else found later) log := by
  apply ends_once (getNodes_program client shardIndex)
  intro reply
  match reply with
  | .error error => exact hfail _ (hfound _ (by simp [Found, statusOf]))
  | .ok ⟨statusCode, body⟩ =>
    by_cases hstatus : statusCode = statusOK
    · have hlog := hfound (.ok ⟨statusCode, body⟩) (by simp [Found, statusOf, hstatus])
      subst hstatus
      match body with
      | .error error => exact hfail _ hlog
      | .ok none => exact hfail _ hlog
      | .ok (some shardData) => exact hlog
    · simp only [readShard, ne_eq, hstatus, not_false_eq_true, if_true, Outcome.Ends]
      exact hmissing ⟨statusCode, body⟩ hstatus

theorem removeStaleNodes_told {shard : List Node} (hshard : stsNodes[count]? = some shard)
    (h : Told stsNodes count log) :
    (removeStaleNodes client password (shard, count)).Ends (.sequential recorded)
      (fun log ↦ ∃ count, Told stsNodes count log) crash (fun _ ↦ Told stsNodes (count + 1)) log := by
  obtain ⟨hcount, -⟩ := List.getElem?_eq_some_iff.mp hshard
  have hread : (Controller.getNodes client count).Ends (.sequential recorded)
      (fun log ↦ ∃ count, Told stsNodes count log) crash (fun result later ↦
        if result = none then
          ∃ response : Response (Option ShardData), response.statusCode ≠ statusOK ∧ later = log ++
              [⟨.http client.endPoint (.getNodes client.ns client.clusterName count), .ok response⟩]
        else Told stsNodes (count + 1) later) log := by
    apply getNodes_ends
    · intro reply hfound
      apply h.read rfl rfl
      simp only [Fits, hcount, if_true]
      exact fun code hcode ↦ .inl (hfound code hcode)
    · exact fun response hstatus ↦ ⟨response, hstatus, rfl⟩
    · exact fun _ htold ↦ ⟨count + 1, htold⟩
  apply hread.bind
  intro result later hlater
  cases result with
  | none =>
    obtain ⟨response, hstatus, rfl⟩ := hlater
    exact sendExpecting_ends (fun _ ↦ h.create hshard hstatus rfl rfl) fun _ htold ↦ ⟨count + 1, htold⟩
  | some shardData =>
    apply ends_forEach_const (Told stsNodes (count + 1)) hlater
    intro node _ current hcurrent
    split
    · exact ends_pure hcurrent
    · exact sendExpecting_ends (fun _ ↦ hcurrent.neutral rfl rfl) fun _ htold ↦ ⟨count + 1, htold⟩

/-- In the second loop an answer other than 200 is a nil pointer, unless the shard has no nodes. -/
theorem addMissingNodes_told {shard : List Node} {index : ℕ} (hshard : stsNodes[index]? = some shard)
    (h : Told stsNodes (stsNodes.length + index) log) :
    (addMissingNodes client password (shard, index)).Ends (.sequential recorded)
      (fun log ↦ ∃ count, Told stsNodes count log) (fun log ↦ ¬ ReadsFit stsNodes log)
      (fun _ ↦ Told stsNodes (stsNodes.length + (index + 1))) log := by
  have hfits (status : Option ℕ) : Fits stsNodes (stsNodes.length + index) status ↔ Found status ∨ shard = [] := by
    simp [Fits, hshard]
  have hread : (Controller.getNodes client index).Ends (.sequential recorded)
      (fun log ↦ ∃ count, Told stsNodes count log) (fun log ↦ ¬ ReadsFit stsNodes log) (fun result later ↦
        if result = none then
          if shard = [] then Told stsNodes (stsNodes.length + (index + 1)) later
          else ¬ ReadsFit stsNodes later
        else Told stsNodes (stsNodes.length + (index + 1)) later) log := by
    apply getNodes_ends
    · exact fun reply hfound ↦ h.read rfl rfl ((hfits _).mpr (.inl hfound))
    · intro response hstatus
      split
      · rename_i hempty
        exact h.read rfl rfl ((hfits _).mpr (.inr hempty))
      · rename_i hnonempty
        rw [readsFit_concat rfl, h.reads, hfits]
        simp [Found, statusOf, hstatus, hnonempty]
    · exact fun _ htold ↦ ⟨_, htold⟩
  apply hread.bind
  intro result later hlater
  cases result with
  | none =>
    simp only [if_true] at hlater ⊢
    split at hlater
    · rename_i hempty
      simp only [hempty, if_true]
      exact ends_pure hlater
    · rename_i hnonempty
      simp only [hnonempty, if_false]
      exact ends_panic hlater
  | some shardData =>
    apply ends_forEach_const (Told stsNodes (stsNodes.length + (index + 1))) hlater
    intro node _ current hcurrent
    split
    · exact ends_pure hcurrent
    · exact sendExpecting_ends (fun _ ↦ hcurrent.neutral rfl rfl) fun _ htold ↦ ⟨_, htold⟩

theorem updateCluster_told : (updateCluster client password stsNodes).Ends (.sequential recorded)
      (fun log ↦ ∃ count, Told stsNodes count log) (fun log ↦ ¬ ReadsFit stsNodes log)
      (fun _ log ↦ ∃ count, Told stsNodes count log) [] := by
  have hstart : Told stsNodes 0 [] := by
    refine ⟨rfl, iff_of_true ?_ (by simp [ReadsFit, nodeReads])⟩
    intro before entry nodes hprefix
    simp at hprefix
  have hitem {item : List Node × ℕ} {index : ℕ} (h : stsNodes.zipIdx[index]? = some item) :
      item = (item.1, index) ∧ stsNodes[index]? = some item.1 := by
    rw [List.getElem?_zipIdx] at h
    obtain ⟨nodes, hnodes, rfl⟩ := Option.map_eq_some_iff.mp h
    exact ⟨by simp, hnodes⟩
  have hfirst : (forEach (removeStaleNodes client password) stsNodes.zipIdx).Ends (.sequential recorded)
      (fun log ↦ ∃ count, Told stsNodes count log) (fun log ↦ ¬ ReadsFit stsNodes log)
      (fun _ ↦ Told stsNodes stsNodes.zipIdx.length) [] := by
    apply ends_forEach_index (Told stsNodes) hstart
    intro index item h world htold
    obtain ⟨hpair, hshard⟩ := hitem h
    rw [hpair]
    exact removeStaleNodes_told hshard htold
  apply hfirst.bind
  intro _ middle hmiddle
  rw [List.length_zipIdx] at hmiddle
  have hsecond : (forEach (addMissingNodes client password) stsNodes.zipIdx).Ends (.sequential recorded)
      (fun log ↦ ∃ count, Told stsNodes count log) (fun log ↦ ¬ ReadsFit stsNodes log)
      (fun _ ↦ Told stsNodes (stsNodes.length + stsNodes.zipIdx.length)) middle := by
    apply ends_forEach_index (fun index ↦ Told stsNodes (stsNodes.length + index)) hmiddle
    intro index item h world htold
    obtain ⟨hpair, hshard⟩ := hitem h
    rw [hpair]
    exact addMissingNodes_told hshard htold
  apply hsecond.bind
  intro _ later hlater
  have hshards : (Controller.getShards client).Ends (.sequential recorded)
      (fun log ↦ ∃ count, Told stsNodes count log) (fun log ↦ ¬ ReadsFit stsNodes log)
      (fun _ log ↦ ∃ count, Told stsNodes count log) later := by
    apply ends_once (getShards_program client)
    intro reply
    have htold : ∃ count, Told stsNodes count
        (later ++ [⟨.http client.endPoint (.getShards client.ns client.clusterName), reply⟩]) :=
      ⟨_, hlater.neutral rfl rfl⟩
    exact readShards_ends reply htold
  apply hshards.bind
  intro shards final hfinal
  apply ends_forEach_const (fun log ↦ ∃ count, Told stsNodes count log) hfinal
  intro index _ current hcurrent
  obtain ⟨count, hcount⟩ := hcurrent
  exact sendExpecting_ends (fun _ ↦ ⟨count, hcount.neutral rfl rfl⟩) fun _ htold ↦ htold

end Update

/-! ## `ensureSetNodeID` -/

/-- Every read of a shard was answered with 200, or not at all. -/
def AllFound (log : Log) : Prop := ∀ status ∈ nodeReads log, Found status

section Identify

variable {client : Controller.Client} {log : Log} {crash : Log → Prop}

theorem allFound_concat {entry : Entry operator} (h : nodeRead entry = some status) :
    AllFound (log ++ [entry]) ↔ AllFound log ∧ Found status := by
  simp [AllFound, nodeReads_concat h, or_imp, forall_and]

theorem AllFound.neutral {entry : Entry operator} (h : AllFound log) (hread : nodeRead entry = none) :
    AllFound (log ++ [entry]) := by
  rw [AllFound, nodeReads_concat_of_none hread]
  exact h

theorem updatePodLabels_allFound {key : NamespacedName} {role : Role} (h : AllFound log) :
    (updatePodLabels key role).Ends (.sequential recorded) AllFound crash (fun _ ↦ AllFound) log := by
  have hget : (K8s.getPod key).Ends (.sequential recorded) AllFound crash (fun _ ↦ AllFound) log := by
    apply ends_once (rfl : _ = (ask (.getPod key)).bind fun reply ↦ .done (Fallible.ofReply GoError.api reply))
    intro reply
    cases reply <;> exact h.neutral rfl
  apply hget.bind
  intro pod later hlater
  split
  · apply ends_once (rfl : _ = (ask (.updatePod _)).bind fun reply ↦ .done (Fallible.ofReply GoError.api reply))
    intro reply
    cases reply <;> exact hlater.neutral rfl
  · exact ends_pure hlater

/-- An answer other than 200 is a nil pointer. -/
theorem identifyShard_allFound {instance_ : KVRocks} {shard : List Node × ℕ} (h : AllFound log) :
    (identifyShard client instance_ shard).Ends (.sequential recorded) AllFound (fun log ↦ ¬ AllFound log)
      (fun _ ↦ AllFound) log := by
  have hread : (Controller.getNodes client shard.2).Ends (.sequential recorded) AllFound (fun log ↦ ¬ AllFound log)
      (fun result later ↦ if result = none then ¬ AllFound later else AllFound later) log := by
    apply getNodes_ends
    · exact fun reply hfound ↦ (allFound_concat rfl).mpr ⟨h, hfound⟩
    · exact fun response hstatus hall ↦ hstatus (((allFound_concat rfl).mp hall).2 _ rfl)
    · exact fun _ h ↦ h
  apply hread.bind
  intro result later hlater
  cases result with
  | none => exact ends_panic hlater
  | some shardData =>
    simp only
    split
    · exact ends_throw _ hlater
    · apply ends_mapEach_const AllFound hlater
      intro node _ current hcurrent
      apply (updatePodLabels_allFound hcurrent).bind
      intro _ final hfinal
      exact ends_pure hfinal

theorem ensureSetNodeID_allFound (h : Handler) :
    ensureSetNodeID.Ends (.sequential recorded) AllFound (fun log ↦ ¬ AllFound log) (fun _ _ ↦ AllFound) h [] := by
  have hstart : AllFound [] := by simp [AllFound, nodeReads]
  apply ends_get_bind
  apply ends_lift_bind (ends_mapEach_const AllFound hstart fun shard _ log hlog ↦ identifyShard_allFound hlog)
  intro stsNodes final hfinal
  exact ends_modify hfinal

end Identify

/-! ## No failure is taken for success -/

/-- The controller's failures are not taken for success exactly in the following executions.  `CreateCluster`: the
answer is 201, or there is none.  `GetShards` and `GetNodes`: it is 200 or 404, or there is none.  `updateCluster`:
this is so of the first read of each shard, and the second read of a shard that has nodes is answered with 200, or not
at all.  `ensureSetNodeID`: all reads are answered with 200, or not at all. -/
theorem no_failure_taken_for_success_iff (client : Controller.Client) : (∀ replicas nodes password outcome log,
      Exec recorded (Controller.createCluster client replicas nodes password).program [] outcome log →
        ((outcome = .ok () → Answered statusCreated log) ↔
          ∀ entry ∈ log, ∀ code, statusOf entry = some code → code = statusCreated)) ∧
    (∀ outcome log, Exec recorded (Controller.getShards client).program [] outcome log →
      ((outcome = .ok [] → Answered statusNotFound log ∨ ∃ entry ∈ log, ListsNone entry) ↔
        ∀ entry ∈ log, Plain (statusOf entry))) ∧
    (∀ shardIndex outcome log, Exec recorded (Controller.getNodes client shardIndex).program [] outcome log →
        ((outcome = .ok none → Answered statusNotFound log) ↔ ∀ entry ∈ log, Plain (statusOf entry))) ∧
    (∀ password stsNodes outcome log, Exec recorded (updateCluster client password stsNodes).program [] outcome log →
        (CreatesMissing stsNodes log ∧ outcome ≠ .panic ↔ ReadsFit stsNodes log)) ∧
    ∀ h result log, Exec recorded (ensureSetNodeID.on h) [] result log → (result.1 ≠ .panic ↔ AllFound log) := by
  refine ⟨fun _ _ _ _ _ ↦ createCluster_iff client, fun _ _ ↦ getShards_iff client,
    fun _ _ _ ↦ getNodes_iff client, ?_, ?_⟩
  · intro password stsNodes outcome log hexec
    have hend := (ensures_iff_exec _ _ _).mp updateCluster_told outcome log hexec
    cases outcome with
    | ok value =>
      obtain ⟨count, htold⟩ := hend
      simpa using htold.creates
    | err error =>
      obtain ⟨count, htold⟩ := hend
      simpa using htold.creates
    | panic => exact iff_of_false (fun hnone ↦ hnone.2 rfl) hend
  · rintro h ⟨outcome, later⟩ log hexec
    have hend := (ensures_iff_exec _ _ _).mp (ensureSetNodeID_allFound h) _ log hexec
    cases outcome with
    | ok value => exact iff_of_true (by simp) hend
    | err error => exact iff_of_true (by simp) hend
    | panic => exact iff_of_false (fun hnone ↦ hnone rfl) hend

/-! ## A controller that starts up -/

/-- A pod that has joined the cluster as a master. -/
def firstNode : Node := Kvrocks.Node.fresh "10.0.0.1" 0

/-- The shard of that pod, as the controller has it. -/
def firstShard : ShardData :=
  { nodes := [{ id := "node-1", addr := "10.0.0.1:6379", role := .master }], slotRanges := ["0-16383"] }

/-- A handler with that pod. -/
def oneShard : Handler :=
  newKVRocksClusterHandler ⟨"default", "kvrocks-cluster-1-demo"⟩ (.created ⟨"default", "kvrocks-cluster-1-demo"⟩
      { image := "kvrocks:2.0", type := .cluster, kvrocksConfig := [], replicas := 1, master := 3,
        password := "secret", resources := true }) Controller.newClient
  |> fun h ↦ { h with stsNodes := [[firstNode]] }

/-- The first read of the shard is answered with `first`, and later ones with 200; everything else succeeds. -/
def starting (first : ℕ) : (request : Call) → Log → request.Reply
  | .http _ (.createCluster _ _), _ => .ok ⟨statusCreated, .ok ()⟩
  | .http _ (.createShard _ _ _), _ => .ok ⟨statusCreated, .ok ()⟩
  | .http _ (.getShards _ _), _ => .ok ⟨statusOK, .ok (some [firstShard])⟩
  | .http _ (.getNodes _ _ _), log =>
    if log = [] then .ok ⟨first, .ok none⟩ else .ok ⟨statusOK, .ok (some firstShard)⟩
  | request, _ => request.failure

/-- The log of `updateCluster` when the first read is answered with `first`. -/
def updateLog (first : ℕ) : Log :=
  ((updateCluster Controller.newClient "secret" [[firstNode]]).program.run (recording (starting first)) []).2

/-- The answer to `CreateCluster`. -/
def createLog (code : ℕ) : Log :=
  [⟨.http "" (.createCluster "cluster-demo"
    { name := "cluster-demo", nodes := ["10.0.0.1:6379"], replicas := 1, password := "secret" }),
    .ok ⟨code, .ok ()⟩⟩]

/-- The answer to `GetShards`. -/
def shardsLog (code : ℕ) : Log := [⟨.http "" (.getShards "cluster-demo" "cluster-demo"), .ok ⟨code, .ok none⟩⟩]

/-- The answer to `GetNodes`. -/
def nodesLog (code : ℕ) : Log := [⟨.http "" (.getNodes "cluster-demo" "cluster-demo" 0), .ok ⟨code, .ok none⟩⟩]

theorem createCluster_log (code : ℕ) : Exec recorded
    (Controller.createCluster Controller.newClient 1 ["10.0.0.1:6379"] "secret").program [] (.ok ())
    (createLog code) :=
  exec_call_iff.mpr ⟨.ok ⟨code, .ok ()⟩, _, rfl, .done _ _⟩

theorem getShards_log {code : ℕ} (h : code ≠ statusOK) :
    Exec recorded (Controller.getShards Controller.newClient).program [] (.ok []) (shardsLog code) := by
  rw [getShards_program]
  exact Program.exec_recorded_once.mpr ⟨.ok ⟨code, .ok none⟩, rfl, by simp [readShards, h]⟩

theorem getNodes_log {code : ℕ} (h : code ≠ statusOK) :
    Exec recorded (Controller.getNodes Controller.newClient 0).program [] (.ok none) (nodesLog code) := by
  rw [getNodes_program]
  exact Program.exec_recorded_once.mpr ⟨.ok ⟨code, .ok none⟩, rfl, by simp [readShard, h]⟩

theorem updateCluster_log (first : ℕ) : Exec recorded
    (updateCluster Controller.newClient "secret" [[firstNode]]).program []
    ((updateCluster Controller.newClient "secret" [[firstNode]]).program.run (recording (starting first)) []).1
    (updateLog first) :=
  Program.exec_recording _ _ _

/-- How `ensureSetNodeID` ends when its read is answered with `first`, and its log. -/
def identifyRun (first : ℕ) : (Outcome GoError Unit × Handler) × Log :=
  (ensureSetNodeID.on oneShard).run (recording (starting first)) []

theorem ensureSetNodeID_log (first : ℕ) :
    Exec recorded (ensureSetNodeID.on oneShard) [] (identifyRun first).1 (identifyRun first).2 :=
  Program.exec_recording _ _ _

/-- A controller that says what it has is understood. -/
theorem missing_not_taken_for_success : Answered statusCreated (createLog statusCreated) ∧
      (Answered statusNotFound (shardsLog statusNotFound) ∨ ∃ entry ∈ shardsLog statusNotFound, ListsNone entry) ∧
      Answered statusNotFound (nodesLog statusNotFound) ∧
      CreatesMissing [[firstNode]] (updateLog statusNotFound) ∧
      (identifyRun statusOK).1.1 ≠ .panic := by
  obtain ⟨hcreate, hshards, hnodes, hupdate, hidentify⟩ := no_failure_taken_for_success_iff Controller.newClient
  refine ⟨(hcreate _ _ _ _ _ (createCluster_log _)).mpr ?_ rfl, (hshards _ _ (getShards_log (by decide))).mpr ?_ rfl,
    (hnodes _ _ _ (getNodes_log (by decide))).mpr ?_ rfl,
    ((hupdate _ _ _ _ (updateCluster_log statusNotFound)).mpr ?_).1,
    (hidentify _ _ _ (ensureSetNodeID_log statusOK)).mpr ?_⟩
  · simp [createLog, statusOf]
  · simp [shardsLog, statusOf, Plain]
  · simp [nodesLog, statusOf, Plain]
  · have hreads : nodeReads (updateLog statusNotFound) = [some statusNotFound, some statusOK] := rfl
    simp [ReadsFit, hreads, Fits, Plain, Found]
  · have hreads : nodeReads (identifyRun statusOK).2 = [some statusOK] := rfl
    simp [AllFound, hreads, Found]

/-- A controller that is unavailable for a moment.  `CreateCluster` reports success, `GetShards` and `GetNodes` report
that there is nothing, `updateCluster` creates a second shard with the pods of the first one, and `ensureSetNodeID`
panics. -/
theorem unavailable_taken_for_success : (Exec recorded
        (Controller.createCluster Controller.newClient 1 ["10.0.0.1:6379"] "secret").program [] (.ok ())
        (createLog 503) ∧ ¬ Answered statusCreated (createLog 503)) ∧
      (Exec recorded (Controller.getShards Controller.newClient).program [] (.ok [])
        (shardsLog 503) ∧ ¬ Answered statusNotFound (shardsLog 503)) ∧
      (Exec recorded (Controller.getNodes Controller.newClient 0).program [] (.ok none)
        (nodesLog 503) ∧ ¬ Answered statusNotFound (nodesLog 503)) ∧
      (Exec recorded (updateCluster Controller.newClient "secret" [[firstNode]]).program [] (.ok ())
        (updateLog 503) ∧ ¬ CreatesMissing [[firstNode]] (updateLog 503)) ∧
      Exec recorded (ensureSetNodeID.on oneShard) [] (.panic, oneShard) (nodesLog 503) := by
  refine ⟨⟨createCluster_log 503, by simp [Answered, createLog, statusOf, statusCreated]⟩,
    ⟨getShards_log (by decide), by simp [Answered, shardsLog, statusOf, statusNotFound]⟩,
    ⟨getNodes_log (by decide), by simp [Answered, nodesLog, statusOf, statusNotFound]⟩,
    ⟨updateCluster_log 503, ?_⟩, ensureSetNodeID_log 503⟩
  intro hcreates
  -- the second entry creates the shard, and the first one is the answer 503
  obtain ⟨index, shard, last, -, -, hlast, hmissing⟩ :=
    hcreates [⟨.http "" (.getNodes "cluster-demo" "cluster-demo" 0), .ok ⟨503, .ok none⟩⟩] _ _ ⟨_, rfl⟩ rfl
  cases hlast
  cases hmissing.2

end KvrocksOperator.Cluster.Responses
