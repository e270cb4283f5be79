import CheckpointFabric.Fetching

/-!
# A fetch has been allowed

The table of tokens is small, and what it says is exact: a check succeeds when the token was allowed
and nothing has happened since that ends this, and otherwise it fails. Nothing of a checkpoint
leaves a node without such a check, and the node has allowed the token in the epoch that it had
then.

## Main definitions

* `Allowed` — which message has put a token into the table

## Main results

* `lookup_eq_some_iff` — what the table of tokens says about what has happened
* `looked_up_iff` — when a check succeeds
* `fetched` — whatever is served was allowed
-/

set_option autoImplicit false

namespace CheckpointFabric.Fetching

open Concurrency Concurrency.System Replica Staging

section Table

variable {s : Gate} {key : Id × FenceToken} {exp now : ℕ}

/-- There is one entry for each token. -/
def Gate.Unique (s : Gate) : Prop := s.fetchTokens.Pairwise fun x y => x.1 ≠ y.1

theorem Gate.Unique.allow (h : s.Unique) : (s.allow key exp).Unique := by
  refine List.pairwise_cons.mpr ⟨fun x hx => ?_, List.Pairwise.filter _ h⟩
  have hne : x.1 ≠ key := by simpa using (List.mem_filter.mp hx).2
  exact hne.symm

theorem Gate.Unique.retain (h : s.Unique) : (s.retain now).Unique := List.Pairwise.filter _ h

theorem lookup_allow {key' : Id × FenceToken} : (s.allow key exp).fetchTokens.lookup key' =
    if key' = key then some exp else s.fetchTokens.lookup key' := by
  rw [Gate.allow, List.lookup_cons]
  split
  · rename_i heq
    rw [if_pos (eq_of_beq heq)]
  · rename_i hne
    have hne : key' ≠ key := by simpa using hne
    rw [if_neg hne, lookup_filter_fst fun k => decide (k ≠ key), if_pos (decide_eq_true hne)]

/-- With one entry for each token, the entry that is found is the one that is kept or dropped. -/
theorem lookup_filter_of_pairwise {entries : List ((Id × FenceToken) × ℕ)} (keeps : ℕ → Bool)
    (h : entries.Pairwise fun x y => x.1 ≠ y.1) :
    (entries.filter fun x => keeps x.2).lookup key = (entries.lookup key).filter keeps := by
  induction entries with
  | nil => rfl
  | cons entry entries ih =>
    obtain ⟨k, v⟩ := entry
    obtain ⟨hfirst, hrest⟩ := List.pairwise_cons.mp h
    by_cases hk : key = k
    · subst hk
      have hnone : (entries.filter fun x => keeps x.2).lookup key = none := by
        refine List.lookup_eq_none_iff.mpr fun x hx => ?_
        simpa using hfirst x (List.mem_filter.mp hx).1
      cases hv : keeps v with
      | true => simp [hv, Option.filter]
      | false => simp [hv, hnone, Option.filter]
    · cases hv : keeps v with
      | true => simp [hv, List.lookup_cons, beq_false_of_ne hk, ih hrest]
      | false => simp [hv, List.lookup_cons, beq_false_of_ne hk, ih hrest]

theorem lookup_retain (h : s.Unique) : (s.retain now).fetchTokens.lookup key = some exp ↔
    s.fetchTokens.lookup key = some exp ∧ now ≤ exp := by
  rw [Gate.retain]
  dsimp only
  rw [lookup_filter_of_pairwise (fun expires => decide (now ≤ expires)) h, Option.filter_eq_some_iff]
  simp

end Table

section Runs

variable {files : FileCodecs} {node : NodeState} {t : List (Event (gate files node))} {tid : ℕ}
  {key : Id × FenceToken} {exp now : ℕ}

theorem unique_of_run (h : Run t) : (stateOf t).Unique := by
  induction h with
  | start => exact .nil
  | perform input _ _ _ _ ih =>
    rename_i op _ _ _ _ _
    cases op with
    | allow => exact ih.allow
    | lookUp => exact ih.retain
    | _ => exact ih
  | restart => exact .nil
  | _ => assumption

/-- The event lets a checkpoint be fetched with a token until then. -/
def Grants (key : Id × FenceToken) (exp : ℕ) : Event (gate files node) → Prop
  | .performed _ (.allow checkpointId fetchToken ttlMs) input _ =>
    (checkpointId, fetchToken) = key ∧ exp = Gate.expiry input.now ttlMs
  | _ => False

/-- The event leaves a token as good as it is: it is no newer grant of that token, no check that
comes after its time, and the process does not start again. -/
def Spares (key : Id × FenceToken) (exp : ℕ) : Event (gate files node) → Prop
  | .performed _ (.allow checkpointId fetchToken _) _ _ => (checkpointId, fetchToken) ≠ key
  | .performed _ (.lookUp _ _ now) _ _ => now ≤ exp
  | .restarted _ => False
  | _ => True

theorem lookup_iff_of_quiet {e : Event (gate files node)}
    (hstate : (stateOf (e :: t)).fetchTokens = (stateOf t).fetchTokens)
    (hgrants : ¬ Grants key exp e) (hspares : Spares key exp e)
    (h : (stateOf t).fetchTokens.lookup key = some exp ↔ Since (Grants key exp) (Spares key exp) t) :
    (stateOf (e :: t)).fetchTokens.lookup key = some exp ↔
      Since (Grants key exp) (Spares key exp) (e :: t) := by
  rw [hstate, h, Since, or_iff_right hgrants, and_iff_right hspares]

/-- A token is in the table until some time when it was granted until then and spared since. -/
theorem lookup_eq_some_iff (h : Run t) : (stateOf t).fetchTokens.lookup key = some exp ↔
    Since (Grants key exp) (Spares key exp) t := by
  induction h with
  | start => exact iff_of_false (Option.some_ne_none exp).symm id
  | @perform t tid request op rest input hrun _ _ _ ih =>
    cases op with
    | allow checkpointId fetchToken ttlMs =>
      change ((stateOf t).allow (checkpointId, fetchToken)
        (Gate.expiry input.now ttlMs)).fetchTokens.lookup key = some exp ↔ _
      rw [lookup_allow, Since, ← ih]
      by_cases hkey : key = (checkpointId, fetchToken)
      · rw [if_pos hkey, Option.some_inj, or_iff_left fun h => h.1 hkey.symm]
        exact ⟨fun h => ⟨hkey.symm, h.symm⟩, fun h => h.2.symm⟩
      · rw [if_neg hkey, or_iff_right fun h => hkey h.1.symm]
        exact ⟨fun h => ⟨fun heq => hkey heq.symm, h⟩, And.right⟩
    | lookUp checkpointId fetchToken now =>
      change ((stateOf t).retain now).fetchTokens.lookup key = some exp ↔ _
      rw [lookup_retain (unique_of_run hrun), ih, Since]
      constructor
      · rintro ⟨hsince, hle⟩
        exact .inr ⟨hle, hsince⟩
      · rintro (hno | ⟨hle, hsince⟩)
        · exact hno.elim
        · exact ⟨hsince, hle⟩
    | _ => exact lookup_iff_of_quiet rfl id trivial ih
  | accept request hrun ih => exact lookup_iff_of_quiet rfl id trivial ih
  | answer hrun _ _ _ ih => exact lookup_iff_of_quiet rfl id trivial ih
  | restart => exact iff_of_false (Option.some_ne_none exp).symm fun h => h.elim id And.left
  | move epoch hrun ih => exact lookup_iff_of_quiet rfl id trivial ih

/-- A check succeeds when it finds the token after the sweep. -/
theorem handle_lookUp_iff (input : Input) {s : Gate} {checkpointId : Id} {fetchToken : FenceToken} :
    (s.handle input (.lookUp checkpointId fetchToken now)).1 = .ok true ↔
      ∃ exp, (s.retain now).fetchTokens.lookup (checkpointId, fetchToken) = some exp := by
  rw [← Option.isSome_iff_exists]
  exact ⟨fun h => Except.ok.inj h, fun h => congrArg Except.ok h⟩

/-- It finds what was granted, as long as its time was over at no sweep since. -/
theorem lookup_retained_iff {key : Id × FenceToken} {exp : ℕ} (h : Run t) :
    ((stateOf t).retain now).fetchTokens.lookup key = some exp ↔
      now ≤ exp ∧ Since (Grants key exp) (Spares key exp) t := by
  rw [lookup_retain (unique_of_run h), lookup_eq_some_iff h]
  exact and_comm

/-- A check succeeds when the token was granted, and its time was over neither now nor when a token
was checked since. -/
theorem looked_up_iff {checkpointId : Id} {fetchToken : FenceToken} {input : Input} {before : Gate}
    (h : Run (S := gate files node)
      (.performed tid (.lookUp checkpointId fetchToken now) input before :: t)) :
    (before.handle input (.lookUp checkpointId fetchToken now)).1 = .ok true ↔
      ∃ exp, now ≤ exp ∧
        Since (Grants (checkpointId, fetchToken) exp) (Spares (checkpointId, fetchToken) exp) t := by
  obtain rfl := h.before_eq
  rw [handle_lookUp_iff input]
  exact exists_congr fun exp => lookup_retained_iff h.tail

end Runs

section Served

variable {files : FileCodecs} {node : NodeState} {t : List (Event (gate files node))} {tid : ℕ}
  {request : Request} {ds : List (Deed fetchInterface FabricError)}

/-- A token is allowed by a message that has shown the epoch of the node. -/
def Allows (request : Request) (ds : List (Deed fetchInterface FabricError)) : Op → Prop
  | .allow checkpointId fetchToken ttlMs => ∃ epoch,
      request = .allowFetch epoch ⟨checkpointId, fetchToken, ttlMs⟩ ∧ ⟨.loadEpoch, .ok epoch⟩ ∈ ds
  | _ => True

/-- The operation allows nothing. -/
def Quiet : Op → Prop
  | .allow .. => False
  | _ => True

theorem allows_of_quiet {op : Op} (h : Quiet op) : Allows request ds op := by
  cases op with
  | allow => exact h.elim
  | _ => trivial

/-- A token was found good. -/
def Found (key : Id × FenceToken) (ds : List (Deed fetchInterface FabricError)) : Prop :=
  ∃ now, ⟨.now, .ok now⟩ ∈ ds ∧ ⟨.lookUp key.1 key.2 now, .ok true⟩ ∈ ds

theorem Found.mono {ds' : List (Deed fetchInterface FabricError)} {key : Id × FenceToken}
    (h : Found key ds) (hsuffix : ds <:+ ds') : Found key ds' := by
  obtain ⟨now, hnow, hlookUp⟩ := h
  exact ⟨now, hsuffix.subset hnow, hsuffix.subset hlookUp⟩

theorem obeys_checkToken {checkpointId : Id} {fetchToken : FenceToken} :
    Obeys (Allows request) (fun ds' result => ∀ u, result = .ok u →
      Found (checkpointId, fetchToken) ds') ds (checkToken checkpointId fetchToken) := by
  refine obeys_call_bind (fun _ _ _ h => nomatch h) trivial fun now => ?_
  refine obeys_call_bind (fun _ _ _ h => nomatch h) trivial fun found => ?_
  rw [obeys_ensure]
  split
  · rename_i hfound
    obtain rfl : found = true := hfound
    exact fun _ _ => ⟨now, .tail _ (.head _), .head _⟩
  · exact fun _ h => nomatch h

/-- What is served after a check has been checked. -/
theorem obeys_checked_bind {α : Type} {id : Id} {token : FenceToken} {rest : Unit → Work α}
    (hrest : ∀ u, Uses Quiet (rest u)) :
    Obeys (Allows request) (fun ds' result => ∀ a, result = .ok a → Found (id, token) ds') ds
      (checkToken id token >>= rest) := by
  refine Obeys.bind (fun _ _ _ h => nomatch h) obeys_checkToken fun ds' u hfound => ?_
  exact (Obeys.extend (hrest u) fun _ _ _ => allows_of_quiet).weaken
    fun _ _ hsuffix _ _ => hfound.mono hsuffix

theorem obeys_serveManifest {req : FetchManifestRequest} :
    Obeys (Allows request) (fun ds' result => ∀ a, result = .ok a →
      Found (req.checkpointId, req.fetchToken) ds') ds (serveManifest files node req) := by
  refine obeys_checked_bind fun _ => .bind (.mapError (uses_call.mpr trivial)) fun bytes => ?_
  exact .bind (uses_ofExcept.mpr trivial) fun manifest => trivial

theorem uses_serveOp (op : ServeOp) : Uses Quiet (serveOp op) := by
  cases op with
  | checkToken id token =>
    refine .bind (uses_call.mpr trivial) fun now => .bind (uses_call.mpr trivial) fun found => ?_
    exact uses_ensure.mpr trivial
  | _ => exact uses_call.mpr trivial

theorem obeys_serveComponent {req : FetchComponentRequest} :
    Obeys (Allows request) (fun ds' result => ∀ a, result = .ok a →
      Found (req.checkpointId, req.fetchToken) ds') ds (serveComponent node req) := by
  rw [serveComponent, Staging.serveComponent, Program.translate_bind, ServeWork.perform,
    Program.translate_call]
  exact obeys_checked_bind fun _ => .translate uses_serveOp _

/-- What is served has been checked, and what is allowed has shown the epoch of the node. -/
theorem obeys_serve (request : Request) : Obeys (Allows request)
    (fun ds result => ∀ key response, request.fetches = some key → result = .ok response →
      Found key ds) [] (serve files node request) := by
  have herror (ds : List (Deed fetchInterface FabricError)) (e : FabricError) :
      ∀ key response, request.fetches = some key →
        (.error e : FabricResult Response) = .ok response → Found key ds := fun _ _ _ h => nomatch h
  cases request with
  | allowFetch epoch req =>
    have hallow : Obeys (Allows (.allowFetch epoch req)) (fun _ result => ∀ u, result = .ok u → True) []
        (allowFetch epoch req) := by
      refine obeys_call_bind (fun _ _ _ _ => trivial) trivial fun actual => ?_
      refine obeys_ensure_bind (fun _ _ _ _ => trivial) fun hepoch => ?_
      exact ⟨⟨epoch, rfl, hepoch ▸ .head _⟩, fun _ _ _ => trivial⟩
    exact Obeys.bind herror hallow fun ds _ _ key response hfetches => (nomatch hfetches)
  | fetchManifest req =>
    refine Obeys.bind herror obeys_serveManifest fun ds _ hfound key response hfetches _ => ?_
    exact Option.some.inj hfetches ▸ hfound
  | fetchComponent req =>
    refine Obeys.bind herror obeys_serveComponent fun ds _ hfound key response hfetches _ => ?_
    exact Option.some.inj hfetches ▸ hfound

/-- An `allow` event is the work of a message of the coordinator for that very token and time, and
the message has shown the epoch that the node had when it was checked. -/
theorem allowed_of_performed {checkpointId : Id} {fetchToken : FenceToken} {ttlMs : ℕ}
    {input : Input} {before : Gate} (h : Run (S := gate files node)
      (.performed tid (.allow checkpointId fetchToken ttlMs) input before :: t)) :
    ∃ epoch, requestOf tid t = some (.allowFetch epoch ⟨checkpointId, fetchToken, ttlMs⟩) ∧
      ∃ input' checked, .performed tid .loadEpoch input' (stateOf checked) :: checked <:+ t ∧
        Live tid checked ∧ (stateOf checked).coordinatorEpoch = epoch := by
  obtain ⟨request, hrequest, epoch, rfl, hloaded⟩ := h.permitted obeys_serve
  obtain ⟨input', checked, hsuffix, hlive, hreply⟩ := exists_performed_of_mem h.tail hloaded
  exact ⟨epoch, hrequest, input', checked, hsuffix, hlive, (Except.ok.inj hreply).symm⟩

/-- An allow message of the coordinator has put the token into the table until `exp`, and it is
there still: the message was checked at `checked`, where the node had the epoch that the message
shows, and it was carried out at `granted`. -/
def Allowed (key : Id × FenceToken) (exp : ℕ) (t : List (Event (gate files node))) : Prop :=
  ∃ allower epoch ttlMs input granted,
    .performed allower (.allow key.1 key.2 ttlMs) input (stateOf granted) :: granted <:+ t ∧
    exp = Gate.expiry input.now ttlMs ∧
    requestOf allower granted = some (.allowFetch epoch ⟨key.1, key.2, ttlMs⟩) ∧
    (∃ input' checked, .performed allower .loadEpoch input' (stateOf checked) :: checked <:+ granted ∧
      Live allower checked ∧ (stateOf checked).coordinatorEpoch = epoch) ∧
    ∀ e later, e :: later <:+ t →
      .performed allower (.allow key.1 key.2 ttlMs) input (stateOf granted) :: granted <:+ later →
      Spares key exp e

/-- What is in the table of tokens was put there by an allow message. -/
theorem allowed_of_since {key : Id × FenceToken} {exp : ℕ} (h : Run t)
    (hsince : Since (Grants key exp) (Spares key exp) t) : Allowed key exp t := by
  obtain ⟨e, granted, hgranted, hgrants, hspared⟩ := since_iff.mp hsince
  have hrun := h.of_suffix hgranted
  cases e with
  | performed allower op input before =>
    cases op with
    | allow checkpointId fetchToken ttlMs =>
      obtain ⟨rfl, hexp⟩ := hgrants
      obtain ⟨epoch, hrequest, hchecked⟩ := allowed_of_performed hrun
      obtain rfl := hrun.before_eq
      exact ⟨allower, epoch, ttlMs, input, granted, hgranted, hexp, hrequest, hchecked, hspared⟩
    | _ => exact hgrants.elim
  | _ => exact hgrants.elim

/-- Nothing of a checkpoint is served to a request whose token was not still good when the request
looked for it; and the entry that it found, with this very expiry, is that of an allow message of
the coordinator which has shown the epoch of the node. -/
theorem fetched {key : Id × FenceToken} {response : Response} (h : Run t)
    (hrequest : requestOf tid t = some request) (hfetches : request.fetches = some key)
    (hanswer : answerOf tid t = some (.ok response)) :
    ∃ now past exp, Live tid past ∧
      (∃ input, .performed tid (.lookUp key.1 key.2 now) input (stateOf past) :: past <:+ t) ∧
      (∃ input read, .performed tid .now input (stateOf read) :: read <:+ t ∧ input.now = now) ∧
      now ≤ exp ∧ Allowed key exp past := by
  obtain ⟨before, answered, hanswered⟩ := exists_answered_of_answerOf hanswer
  have hrun := h.of_suffix hanswered
  obtain ⟨request', hrequest', hconcluded⟩ := hrun.concluded obeys_serve
  obtain rfl : request' = request :=
    Option.some.inj (hrequest'.symm.trans ((requestOf_answered h hanswered).trans hrequest))
  -- The answer rests on a look-up that has found the token, at a time that was read before.
  obtain ⟨now, hnow, hlookUp⟩ := hconcluded key response hfetches rfl
  obtain ⟨input, read, hread, -, hclock⟩ := exists_performed_of_mem hrun.tail hnow
  obtain ⟨input', past, hpast, hlive, hreply⟩ := exists_performed_of_mem hrun.tail hlookUp
  have hchecked := hrun.tail.of_suffix hpast
  obtain ⟨exp, hfound⟩ := (handle_lookUp_iff input').mp hreply.symm
  obtain ⟨hle, hsince⟩ := (lookup_retained_iff hchecked.tail).mp hfound
  have hsuffix := suffix_of_cons hanswered
  refine ⟨now, past, exp, hlive, ⟨input', hpast.trans hsuffix⟩,
    ⟨input, read, hread.trans hsuffix, (Except.ok.inj hclock).symm⟩, hle, ?_⟩
  exact allowed_of_since hchecked.tail hsince

/-! ### A small run

The coordinator of epoch 3 allows a token for a minute. The first fetch comes in time, and the
second one does not. -/

namespace Demo

/-- The clock shows this, and every component is a file of five bytes. -/
def reading (now : ℕ) : Input where
  now
  manifest := .error (.io "")
  file
    | .isFile _ => .ok true
    | .checkToken .. | .openFile _ | .seek .. => .ok ()
    | .readAt .. => .ok (utf8 "hello")
    | .metadataLen _ => .ok 5

def fetch : Request := .fetchComponent ⟨7, "model", 0, 9⟩

def allowed : List (Action (gate Replica.Demo.files Replica.Demo.node)) :=
  [.move 3, .accept (.allowFetch 3 ⟨7, 9, 60000⟩), .advance 0 (Demo.reading 1000),
    .advance 0 (Demo.reading 1000), .accept fetch] ++
      List.replicate 8 (.advance 1 (Demo.reading 31000))

def late : List (Action (gate Replica.Demo.files Replica.Demo.node)) :=
  allowed ++ [.accept fetch, .advance 2 (Demo.reading 61001), .advance 2 (Demo.reading 61001)]

end Demo

theorem fetched_allowed :
    answerOf 1 (exec Demo.allowed).trace =
      some (.ok (.chunk ⟨true, none, 0, utf8 "hello", true⟩)) ∧
    ∃ now past exp, past <:+ (exec Demo.allowed).trace ∧ now ≤ exp ∧ Allowed (7, 9) exp past := by
  have hanswer : answerOf 1 (exec Demo.allowed).trace =
      some (.ok (.chunk ⟨true, none, 0, utf8 "hello", true⟩)) := rfl
  have hrequest : requestOf 1 (exec Demo.allowed).trace = some Demo.fetch := rfl
  have hfetches : Demo.fetch.fetches = some (7, 9) := rfl
  obtain ⟨now, past, exp, -, ⟨input, hpast⟩, -, hle, hallowed⟩ :=
    fetched (exec_run Demo.allowed) hrequest hfetches hanswer
  exact ⟨hanswer, now, past, exp, suffix_of_cons hpast, hle, hallowed⟩

theorem looked_up_late : ¬ ∃ exp, 61001 ≤ exp ∧
    Since (Grants (7, 9) exp) (Spares (7, 9) exp) (exec Demo.late).trace.tail := by
  obtain ⟨before, t, heq, hrefused⟩ : ∃ before t, (exec Demo.late).trace =
      .performed 2 (.lookUp 7 9 61001) (Demo.reading 61001) before :: t ∧
        (Gate.handle before (Demo.reading 61001) (.lookUp 7 9 61001)).1 = .ok false :=
    ⟨_, _, rfl, rfl⟩
  have hiff := looked_up_iff (heq ▸ exec_run Demo.late)
  rw [heq, List.tail_cons, ← hiff, hrefused]
  exact fun h => nomatch Except.ok.inj h

end Served

end CheckpointFabric.Fetching
