import Mathlib
import Ingestion.Proofs.Concurrent.Contest

/-!
# Rivals for a project

Several requests create blueprints for one project that nobody owns yet. As long as none of them has
stored its blueprint the project is open. The first one to store its blueprint wins, since the store
refuses all others from then on, and no other one ever stores its blueprint. Every other request so
ends with the conflict with the winner, whether it meets the winner during validation or when it
saves (`Run.Rivals.one_wins`).

Each rival is followed by the protocol of the contest. What its stage tells of the run is
`Run.KnownContender`.
-/

namespace Ingestion

namespace Run

variable {registry : Registry}

/-- From the moment `i` on, up to the moment `j`, the requests in `K` create blueprints for one
project. The project is there and has no owner at first, and the blueprints obey all rules,
whatever their identifiers and times are. Nobody else changes blueprints, and nobody puts
settings. -/
structure Rivals (r : Run registry) (i j : Nat) (project : String) (K : Finset Nat) : Prop where
  le : i ≤ j
  named : project ≠ ""
  found : ∃ p, (r.memory i).findProject project = some p
  unowned : ∀ id b, (r.memory i).findBlueprint id = some b → b.projectName ≠ project
  creates : ∀ k ∈ K, ∃ d, r.Carries j k (.create d) ∧ d.projectName = project ∧
    ∀ id t, (d.toBlueprint id t).Admissible registry (r.memory i)
  late : ∀ k ∈ K, ∀ m < i, ∀ c reply, ¬ r.Exchanges m k c reply
  alone : ∀ w, i ≤ w → w < j → ∀ k, r.Writes w k → k ∈ K
  settings : ∀ x, i ≤ x → x < j → ∀ m, r.action x ≠ .putMetric m

/-- At the moment `w` the request `k` stores its blueprint for a project, under an identifier that
it has drawn since the moment `i`. -/
structure Stores (r : Run registry) (i w k : Nat) (project : String) (b : Blueprint) : Prop where
  save : r.Exchanges w k (.saveBlueprint b) (.ok ())
  project_eq : b.projectName = project
  draft : ∃ d t, r.Carries w k (.create d) ∧
    b = { (d.toBlueprint b.id t).normalized with plan := b.plan }
  draw : ∃ m, i ≤ m ∧ m < w ∧ r.Exchanges m k .freshId b.id

variable {r : Run registry} {i j : Nat} {project : String} {K : Finset Nat}

namespace Stores

variable {w k : Nat} {b : Blueprint}

/-- The identifier is new. -/
theorem fresh (h : r.Stores i w k project b) : (r.memory i).findBlueprint b.id = none := by
  obtain ⟨m, him, -, hdraw⟩ := h.draw
  cases hfound : (r.memory i).findBlueprint b.id with
  | none => rfl
  | some o => exact absurd (issued_mono him (mem_issued hfound)) hdraw.drawn.1

/-- Two requests store their blueprints under different identifiers. -/
theorem id_ne (h : r.Stores i w k project b) {m k' : Nat} {id : Uuid}
    (hdraw : r.Exchanges m k' .freshId id) (hk : k ≠ k') : b.id ≠ id := by
  rintro rfl
  obtain ⟨m', -, -, hdraw'⟩ := h.draw
  exact hk (hdraw'.draw_unique hdraw)

end Stores

namespace Rivals

variable {w k : Nat} {b : Blueprint}

/-! ## What rivals write -/

theorem le_of_exchanges (h : r.Rivals i j project K) (hk : k ∈ K) {m : Nat} {c : Call}
    {reply : c.Reply} (he : r.Exchanges m k c reply) : i ≤ m := by
  by_contra him
  exact h.late k hk m (Nat.lt_of_not_le him) c reply he

theorem le_of_writes (h : r.Rivals i j project K) (hk : k ∈ K) (hw : r.Writes w k) : i ≤ w := by
  obtain ⟨c, reply, he⟩ := hw.exists_exchange
  exact h.le_of_exchanges hk he

theorem exists_stores (h : r.Rivals i j project K) (hiw : i ≤ w) (hwj : w < j)
    (hw : r.Writes w k) : ∃ b, r.Stores i w k project b := by
  have hk : k ∈ K := h.alone w hiw hwj k hw
  obtain ⟨d, hcarries, hname, -⟩ := h.creates k hk
  rcases hw with ⟨b, he⟩ | ⟨id, he⟩
  · obtain ⟨c, b₀, hcarries', hdrafted, hpasses⟩ := he.save_passes
    obtain rfl := hcarries.unique hcarries'
    cases hdrafted with
    | @create _ id t m hm hdraw =>
      have hid : b.id = id := hpasses.id_eq
      have hfields : b = { (d.toBlueprint b.id t).normalized with plan := b.plan } := by
        rw [hid]
        exact hpasses.fields
      refine ⟨b, he, ?_, ⟨d, t, hcarries', hfields⟩, m, h.le_of_exchanges hk hdraw, hm, hid ▸ hdraw⟩
      rw [hfields]
      exact hname
  · cases hcarries.unique he.delete_origin

/-- Once a rival has stored its blueprint, no other one stores its own. -/
theorem no_write_after (h : r.Rivals i j project K) (hb : r.Stores i w k project b) (hiw : i ≤ w)
    {x : Nat} (hwx : w < x) (hxj : x < j) (k' : Nat) : ¬ r.Writes x k' := by
  induction x using Nat.strong_induction_on generalizing k' with
  | _ x ih =>
    intro hx
    obtain ⟨b', hb'⟩ := h.exists_stores (hiw.trans hwx.le) hxj hx
    -- The blueprint is still there, so that the store would refuse one of another identifier.
    have hsame : (r.memory x).blueprints = (r.memory (w + 1)).blueprints :=
      r.blueprints_eq_of_no_write hwx fun y hwy hyx k'' =>
        ih y hyx hwy (hyx.trans hxj) k''
    have hfound : (r.memory x).findBlueprint b.id = some b := by
      rw [Memory.findBlueprint, hsame, hb.save.saved, Table.find?_insert_self]
    have hproject : b'.hasProject = true := bne_iff_ne.2 (hb'.project_eq ▸ h.named)
    have hid : b.id = b'.id := Memory.id_eq_of_not_taken hb'.save.not_taken hproject hfound
      (hb.project_eq.trans hb'.project_eq.symm)
    obtain ⟨m, -, -, hdraw⟩ := hb.draw
    obtain ⟨m', -, -, hdraw'⟩ := hb'.draw
    obtain rfl := (hid ▸ hdraw).draw_unique hdraw'
    have hmoment : w = x := Writes.moment_unique (.inl ⟨b, hb.save⟩) hx
    exact absurd hmoment hwx.ne

theorem write_unique (h : r.Rivals i j project K) (hb : r.Stores i w k project b) (hiw : i ≤ w)
    (hwj : w < j) {x k' : Nat} (hix : i ≤ x) (hxj : x < j) (hx : r.Writes x k') :
    x = w ∧ k' = k := by
  have hxw : x = w := by
    rcases Nat.lt_trichotomy x w with hlt | heq | hlt
    · obtain ⟨b', hb'⟩ := h.exists_stores hix hxj hx
      exact absurd (.inl ⟨b, hb.save⟩) (h.no_write_after hb' hix hlt hwj k)
    · exact heq
    · exact absurd hx (h.no_write_after hb hiw hlt hxj k')
  subst hxw
  exact ⟨rfl, hx.unique (.inl ⟨b, hb.save⟩)⟩

/-- A rival that has not stored the blueprint stores none. -/
theorem not_writes (h : r.Rivals i j project K) (hb : r.Stores i w k project b) (hiw : i ≤ w)
    (hwj : w < j) {k' : Nat} (hk' : k' ∈ K) (hne : k' ≠ k) {x : Nat} (hxj : x < j) :
    ¬ r.Writes x k' := by
  intro hx
  exact hne (h.write_unique hb hiw hwj (h.le_of_writes hk' hx) hxj hx).2

theorem blueprints_eq (h : r.Rivals i j project K) (hb : r.Stores i w k project b) (hiw : i ≤ w)
    {m : Nat} (hwm : w < m) (hmj : m ≤ j) :
    (r.memory m).blueprints = (r.memory i).blueprints.insert b.id b := by
  have hbefore : (r.memory w).blueprints = (r.memory i).blueprints := by
    refine r.blueprints_eq_of_no_write hiw fun x hix hxw k' hx => ?_
    have hwj : w < j := hwm.trans_le hmj
    exact hxw.ne (h.write_unique hb hiw hwj hix (hxw.trans hwj) hx).1
  have hafter : (r.memory m).blueprints = (r.memory (w + 1)).blueprints :=
    r.blueprints_eq_of_no_write hwm fun x hwx hxm =>
      h.no_write_after hb hiw hwx (hxm.trans_le hmj)
  rw [hafter, hb.save.saved, hbefore]

/-- From its save on the blueprint is found as the owner of the project. -/
theorem owner_eq (h : r.Rivals i j project K) (hb : r.Stores i w k project b) (hiw : i ≤ w)
    {m : Nat} (hwm : w < m) (hmj : m ≤ j) : (r.memory m).findOwner project = some b := by
  have hblueprints := h.blueprints_eq hb hiw hwm hmj
  have hfound : (r.memory m).findBlueprint b.id = some b := by
    rw [Memory.findBlueprint, hblueprints, Table.find?_insert_self]
  refine Memory.findOwner_eq_of_only hfound hb.project_eq fun id o ho hname => ?_
  rw [Memory.findBlueprint, hblueprints, Table.find?_insert] at ho
  split at ho
  · exact (Option.some.inj ho).symm
  · exact absurd hname (h.unowned id o ho)

theorem owner_eq_none (h : r.Rivals i j project K) {m : Nat} (him : i ≤ m)
    (hnone : ∀ w, i ≤ w → w < m → ∀ k, ¬ r.Writes w k) : (r.memory m).findOwner project = none := by
  refine Memory.findOwner_eq_none fun id o ho => ?_
  rw [Memory.findBlueprint, r.blueprints_eq_of_no_write him hnone] at ho
  exact h.unowned id o ho

theorem owner_of_stores (h : r.Rivals i j project K) (hb : r.Stores i w k project b) (hiw : i ≤ w)
    (hwj : w < j) : ∀ w' k' b', i ≤ w' → w' < j → r.Stores i w' k' project b' →
      some b = some b' := by
  intro w' k' b' hiw' hwj' hb'
  obtain ⟨rfl, rfl⟩ := h.write_unique hb hiw hwj hiw' hwj' (.inl ⟨b', hb'.save⟩)
  cases (hb.save.unique hb'.save).2
  rfl

/-- Up to the moment `j` the project is contested, and nobody owns it but a rival. -/
theorem contested (h : r.Rivals i j project K) {owner : Option Blueprint}
    (howner : ∀ w k b, i ≤ w → w < j → r.Stores i w k project b → owner = some b) {m : Nat}
    (him : i ≤ m) (hmj : m ≤ j) : (r.memory i).Contested project owner (r.memory m) := by
  constructor
  · obtain ⟨p, hp⟩ := h.found
    exact project_stays him hp
  · intro o ho
    by_cases hw : ∃ w, i ≤ w ∧ w < m ∧ ∃ k, r.Writes w k
    · obtain ⟨w, hiw, hwm, k, hw⟩ := hw
      obtain ⟨b, hb⟩ := h.exists_stores hiw (hwm.trans_le hmj) hw
      rw [h.owner_eq hb hiw hwm hmj] at ho
      rw [← ho]
      exact howner w k b hiw (hwm.trans_le hmj) hb
    · rw [h.owner_eq_none him fun w hiw hwm k hk => hw ⟨w, hiw, hwm, k, hk⟩] at ho
      cases ho
  · exact metrics_eq him fun x hix hxm => h.settings x hix (hxm.trans_le hmj)

end Rivals

/-! ## Following a rival -/

/-- What is known at the moment `m` of a rival by its stage. -/
def KnownContender (r : Run registry) (i m k : Nat) : Contender → Prop
  | .arrived => ∀ w < m, ¬ r.Writes w k
  | .named id => (∀ w < m, ¬ r.Writes w k) ∧ ∃ x < m, r.Exchanges x k .freshId id
  | .refused id => (∀ w < m, ¬ r.Writes w k) ∧ (∃ x < m, r.Exchanges x k .freshId id) ∧
      ∃ w, i ≤ w ∧ w < m ∧ ∃ k', r.Writes w k'
  | .stored b | .holding b => ∃ w < m, r.Exchanges w k (.saveBlueprint b) (.ok ())
  | .mistaken => False

theorem KnownContender.succ {m k : Nat} {stage : Contender} (h : r.KnownContender i m k stage)
    (hm : ¬ r.Writes m k) : r.KnownContender i (m + 1) k stage := by
  have hwrites (h : ∀ w < m, ¬ r.Writes w k) : ∀ w < m + 1, ¬ r.Writes w k := by
    intro w hw
    rcases Nat.lt_succ_iff_lt_or_eq.1 hw with hw | rfl
    · exact h w hw
    · exact hm
  cases stage with
  | arrived => exact hwrites h
  | named id =>
    obtain ⟨hnone, x, hx, hdraw⟩ := h
    exact ⟨hwrites hnone, x, Nat.lt_succ_of_lt hx, hdraw⟩
  | refused id =>
    obtain ⟨hnone, ⟨x, hx, hdraw⟩, w, hiw, hw, hrival⟩ := h
    exact ⟨hwrites hnone, ⟨x, Nat.lt_succ_of_lt hx, hdraw⟩, w, hiw, Nat.lt_succ_of_lt hw, hrival⟩
  | stored b | holding b =>
    obtain ⟨w, hw, hsave⟩ := h
    exact ⟨w, Nat.lt_succ_of_lt hw, hsave⟩
  | mistaken => exact h

namespace Rivals

variable {k m : Nat}

theorem known_next (h : r.Rivals i j project K) (him : i ≤ m) (hmj : m < j)
    {stage stage' : Contender} {c : Call} {reply : c.Reply} (he : r.Exchanges m k c reply)
    (hnext : Contender.Next project stage c reply stage') (hknown : r.KnownContender i m k stage) :
    r.KnownContender i (m + 1) k stage' := by
  cases hnext with
  | name =>
    have hsucc := hknown.succ (he.not_writes rfl)
    exact ⟨hsucc, m, Nat.lt_succ_self m, he⟩
  | save => exact ⟨m, Nat.lt_succ_self m, he⟩
  | @refuse b e hname =>
    obtain ⟨hnone, hdraw⟩ :=
      hknown.succ (he.not_writes_of_reply (by rintro b' ⟨⟩) (by rintro id ⟨⟩))
    refine ⟨hnone, hdraw, ?_⟩
    -- The blueprint that is in the way has been stored by a rival.
    obtain ⟨chance, hanswer⟩ := he.exists_answer
    have htaken : (r.memory m).isTaken b = true := (Shared.answer_save_error hanswer).1
    by_contra hno
    have howner := h.owner_eq_none him fun w hiw hwm k' hk' =>
      hno ⟨w, hiw, Nat.lt_succ_of_lt hwm, k', hk'⟩
    rw [← hname] at howner
    cases (Memory.isTaken_of_findOwner_eq_none howner).symm.trans htaken
  | err hsame =>
    obtain ⟨hnone, ⟨x, -, hdraw⟩, w, hiw, hwm, k', hw⟩ := hknown
    obtain ⟨b, hb⟩ := h.exists_stores hiw (hwm.trans hmj) hw
    have hne : k' ≠ k := by
      rintro rfl
      exact hnone w hwm hw
    have howner := h.owner_eq hb hiw hwm hmj.le
    obtain ⟨chance, hanswer⟩ := he.exists_answer
    have hreply := (Prod.mk.inj (Option.some.inj hanswer)).1
    exact hb.id_ne hdraw hne (hsame b (hreply.symm.trans (congrArg Except.ok howner)))
  | look hlookup => exact hknown.succ (he.not_writes (Call.isWrite_of_isLookup _ hlookup))
  | time | concede | lock | fetch | rebuild | unlock => exact hknown.succ (he.not_writes rfl)

theorem replies (h : r.Rivals i j project K) {owner : Option Blueprint}
    (howner : ∀ w k b, i ≤ w → w < j → r.Stores i w k project b → owner = some b) (hk : k ∈ K)
    (hmj : m < j) {c : Call} {reply : c.Reply} (he : r.Exchanges m k c reply) :
    (contest registry (r.memory i) project owner).Replies c reply := by
  obtain ⟨chance, hanswer⟩ := he.exists_answer
  exact .inr ⟨k, chance, _, _, h.contested howner (h.le_of_exchanges hk he) hmj.le, hanswer⟩

/-- A rival is at some stage of the contest. -/
theorem exists_contender (h : r.Rivals i j project K) {owner : Option Blueprint}
    (howner : ∀ w k b, i ≤ w → w < j → r.Stores i w k project b → owner = some b) (hk : k ∈ K)
    (hmj : m ≤ j) {d : Draft} {rest : Program (Except RequestError Blueprint)}
    (hp : (r.state m).requests[k]? = some ⟨.create d, rest⟩) :
    ∃ stage, rest.Obeys (contest registry (r.memory i) project owner) stage
      (Contender.Ends project owner) ∧ r.KnownContender i m k stage := by
  obtain ⟨d', hcarries, rfl, hvalid⟩ := h.creates k hk
  cases hcarries.unique ⟨_, hp, rfl⟩
  refine r.exists_stage_of (n := j) (Command.create_obeys_contest h.named hvalid) ?_
    (fun m => r.KnownContender i m k) ?_ ?_ ?_ hmj hp
  · exact fun x hxj c reply he => h.replies howner hk hxj he
  · intro x hxj hx w hw hwrites
    obtain ⟨c, reply, he⟩ := hwrites.exists_exchange
    exact absurd (he.lt_of_arrived hx) (Nat.not_lt.2 (Nat.le_of_lt_succ hw))
  · intro x hxj stage hsilent hknown
    refine hknown.succ fun hwrites => ?_
    obtain ⟨c, reply, he⟩ := hwrites.exists_exchange
    exact hsilent c reply he
  · intro x hxj stage c reply stage' he hnext hknown
    exact h.known_next (h.le_of_exchanges hk he) hxj he hnext hknown

/-- A call of a rival is one of the contest. -/
theorem exists_next (h : r.Rivals i j project K) {owner : Option Blueprint}
    (howner : ∀ w k b, i ≤ w → w < j → r.Stores i w k project b → owner = some b) (hk : k ∈ K)
    (hmj : m < j) {c : Call} {reply : c.Reply} (he : r.Exchanges m k c reply) :
    ∃ stage stage', Contender.Next project stage c reply stage' ∧
      r.KnownContender i (m + 1) k stage' := by
  obtain ⟨⟨command, rest⟩, next, hp, hrest, -⟩ := he.requests_get
  obtain ⟨d, hcarries, -⟩ := h.creates k hk
  cases hcarries.unique ⟨_, hp, rfl⟩
  obtain ⟨stage, hobeys, hknown⟩ := h.exists_contender howner hk hmj.le hp
  have hrest : rest = .call c next := hrest
  rw [hrest] at hobeys
  obtain ⟨stage', hnext, -⟩ := hobeys reply (h.replies howner hk hmj he)
  exact ⟨stage, stage', hnext, h.known_next (h.le_of_exchanges hk he) hmj he hnext hknown⟩

end Rivals

namespace KnownContender

variable {k m : Nat} {stage : Contender}

theorem hasStored_eq_false (h : r.KnownContender i m k stage) (hnone : ∀ w < m, ¬ r.Writes w k) :
    stage.hasStored = false := by
  cases stage with
  | stored b | holding b =>
    obtain ⟨w, hw, hsave⟩ := h
    exact absurd (.inl ⟨b, hsave⟩) (hnone w hw)
  | _ => rfl

/-- A rival that ends without having stored its blueprint ends with the conflict. -/
theorem conflict (h : r.KnownContender i m k stage) (hnone : ∀ w < m, ¬ r.Writes w k)
    {owner : Option Blueprint} {result : Except RequestError Blueprint}
    (hends : Contender.Ends project owner stage result) :
    ∃ o, owner = some o ∧ result = .error (.projectConflict project o.id o.name) := by
  have hstage := h.hasStored_eq_false hnone
  cases stage with
  | arrived => exact hends.elim
  | named | refused => exact hends
  | mistaken => exact h.elim
  | _ => cases hstage

/-- A rival that has not stored its blueprint can be carried on alone. -/
theorem carried (h : r.KnownContender i m k stage) (hnone : ∀ w < m, ¬ r.Writes w k)
    {owner : Option Blueprint}
    (hother : ∀ x id o, owner = some o → r.Exchanges x k .freshId id → o.id ≠ id)
    (howned : (∃ w, i ≤ w ∧ w < m ∧ ∃ k', r.Writes w k') → ∃ o, owner = some o) {fresh : Uuid}
    (hfresh : fresh ∉ r.issued m) :
    Contender.Carried owner fresh (r.state m).shared stage (r.state m).shared := by
  have hstage := h.hasStored_eq_false hnone
  cases stage with
  | arrived => exact .arrived hfresh
  | named id =>
    obtain ⟨-, x, -, hdraw⟩ := h
    exact .named fun o ho => hother x id o ho hdraw
  | refused id =>
    obtain ⟨-, ⟨x, -, hdraw⟩, hrival⟩ := h
    obtain ⟨o, ho⟩ := howned hrival
    exact .refused ho (hother x id o ho hdraw)
  | mistaken => exact h.elim
  | _ => cases hstage

end KnownContender

/-! ## How rivals end -/

/-- The project is still open: nothing has been stored, and none of the requests has ended.
Whichever of them is carried on alone, while the agenda is free, stores its blueprint. -/
structure Undecided (r : Run registry) (i j : Nat) (project : String) (K : Finset Nat) : Prop where
  blueprints : (r.memory j).blueprints = (r.memory i).blueprints
  running : ∀ k ∈ K, ∀ d result, (r.state j).requests[k]? ≠ some ⟨.create d, .done result⟩
  wins : ∀ k ∈ K, ∀ d rest chance, (r.state j).requests[k]? = some ⟨.create d, rest⟩ →
    chance.id ∉ r.issued j → (r.state j).shared.holder = none →
    ∃ b result s, Shared.perform registry k chance rest (r.state j).shared = some (result, s) ∧
      s.memory.blueprints = (r.memory j).blueprints.insert b.id b ∧ b.projectName = project ∧
      (result = .ok b ∨ ∃ e, result = .error (.reload e))

/-- The request `k` has stored its blueprint, and it is the only one that has been stored. It ends
with this blueprint, unless the agenda cannot be rebuilt. -/
structure Wins (r : Run registry) (i j k : Nat) (project : String) (b : Blueprint) : Prop where
  stores : ∃ w, i ≤ w ∧ w < j ∧ r.Stores i w k project b
  fresh : (r.memory i).findBlueprint b.id = none
  blueprints : (r.memory j).blueprints = (r.memory i).blueprints.insert b.id b
  result : ∀ d result, (r.state j).requests[k]? = some ⟨.create d, .done result⟩ →
    result = .ok b ∨ ∃ e, result = .error (.reload e)

/-- The request `k` has ended with the conflict with the owner `o`, or ends with it if it is carried
on. None of its calls changes the store or the agenda. -/
structure Loses (r : Run registry) (j k : Nat) (project : String) (o : Blueprint) : Prop where
  result : ∀ d result, (r.state j).requests[k]? = some ⟨.create d, .done result⟩ →
    result = .error (.projectConflict project o.id o.name)
  carried_on : ∀ d rest chance, (r.state j).requests[k]? = some ⟨.create d, rest⟩ →
    chance.id ∉ r.issued j →
    ∃ issued, Shared.perform registry k chance rest (r.state j).shared =
      some (.error (.projectConflict project o.id o.name), { (r.state j).shared with issued })
  harmless : ∀ m < j, ∀ c reply, r.Exchanges m k c reply →
    r.memory (m + 1) = r.memory m ∧ r.agenda (m + 1) = r.agenda m

namespace Rivals

variable {w k : Nat} {b : Blueprint}

/-- As long as nobody has stored a blueprint, the project is open. -/
theorem undecided (h : r.Rivals i j project K)
    (hnone : ∀ w, i ≤ w → w < j → ∀ k, ¬ r.Writes w k) : r.Undecided i j project K := by
  have howner (w k : Nat) (b : Blueprint) (hiw : i ≤ w) (hwj : w < j)
      (hb : r.Stores i w k project b) : none = some b :=
    absurd (.inl ⟨b, hb.save⟩) (hnone w hiw hwj k)
  have hsilent {k : Nat} (hk : k ∈ K) : ∀ w < j, ¬ r.Writes w k := fun w hwj hw =>
    hnone w (h.le_of_writes hk hw) hwj k hw
  refine ⟨r.blueprints_eq_of_no_write h.le hnone, ?_, ?_⟩
  · intro k hk d result hp
    obtain ⟨stage, hends, hknown⟩ := h.exists_contender howner hk le_rfl hp
    obtain ⟨o, ho, -⟩ := hknown.conflict (hsilent hk) hends
    cases ho
  · intro k hk d rest chance hp hfresh hfree
    obtain ⟨stage, hobeys, hknown⟩ := h.exists_contender howner hk le_rfl hp
    have hcarried : Contender.Carried none chance.id (r.state j).shared stage
        (r.state j).shared := by
      refine hknown.carried (hsilent hk) (by rintro m id o ⟨⟩) ?_ hfresh
      rintro ⟨w, hiw, hwj, k', hw⟩
      exact absurd hw (hnone w hiw hwj k')
    obtain ⟨result, stage', s, hperform, hends, hcarried'⟩ := hobeys.perform_of_served
      (contest_served (h.contested howner h.le le_rfl) h.named (h.owner_eq_none h.le hnone)
        (by rintro o ⟨⟩) fun _ => hfree) hcarried
    cases hcarried' with
    | arrived => exact hends.elim
    | named | refused =>
      obtain ⟨o, ⟨⟩, -⟩ := hends
    | stored _ hb _ => exact ⟨_, result, s, hperform, hb, hends⟩
    | holding => exact hends.elim

theorem wins (h : r.Rivals i j project K) (hb : r.Stores i w k project b) (hiw : i ≤ w)
    (hwj : w < j) : r.Wins i j k project b := by
  refine ⟨⟨w, hiw, hwj, hb⟩, hb.fresh, h.blueprints_eq hb hiw hwj le_rfl, ?_⟩
  intro d result hp
  have hk : k ∈ K := h.alone w hiw hwj k (.inl ⟨b, hb.save⟩)
  obtain ⟨stage, hends, hknown⟩ := h.exists_contender (h.owner_of_stores hb hiw hwj) hk le_rfl hp
  have hwritten : ¬ ∀ w < j, ¬ r.Writes w k := fun hnone => hnone w hwj (.inl ⟨b, hb.save⟩)
  cases stage with
  | arrived => exact absurd hknown hwritten
  | named | refused => exact absurd hknown.1 hwritten
  | stored b' =>
    obtain ⟨w', -, hsave⟩ := hknown
    obtain rfl : w' = w := Writes.moment_unique (.inl ⟨b', hsave⟩) (.inl ⟨b, hb.save⟩)
    cases (hsave.unique hb.save).2
    exact hends.2
  | holding => exact hends.elim
  | mistaken => exact hknown.elim

theorem loses (h : r.Rivals i j project K) (hb : r.Stores i w k project b) (hiw : i ≤ w)
    (hwj : w < j) {k' : Nat} (hk' : k' ∈ K) (hne : k' ≠ k) : r.Loses j k' project b := by
  have howner := h.owner_of_stores hb hiw hwj
  have hnone : ∀ x < j, ¬ r.Writes x k' := fun x hxj => h.not_writes hb hiw hwj hk' hne hxj
  refine ⟨?_, ?_, ?_⟩
  · intro d result hp
    obtain ⟨stage, hends, hknown⟩ := h.exists_contender howner hk' le_rfl hp
    obtain ⟨o, ho, rfl⟩ := hknown.conflict hnone hends
    cases ho
    rfl
  · intro d rest chance hp hfresh
    obtain ⟨stage, hobeys, hknown⟩ := h.exists_contender howner hk' le_rfl hp
    have hcarried : Contender.Carried (some b) chance.id (r.state j).shared stage
        (r.state j).shared := by
      refine hknown.carried hnone ?_ (fun _ => ⟨b, rfl⟩) hfresh
      rintro m id o ⟨⟩ hdraw
      exact hb.id_ne hdraw (Ne.symm hne)
    have hissued : b.id ∈ r.issued j := issued_mono hwj.le hb.save.save_issued
    obtain ⟨result, stage', s, hperform, hends, hcarried'⟩ := hobeys.perform_of_served
      (contest_served (h.contested howner h.le le_rfl) h.named (h.owner_eq hb hiw hwj le_rfl)
        (by rintro o ⟨⟩; exact hissued) (by rintro ⟨⟩)) hcarried
    cases hcarried' with
    | arrived => exact hends.elim
    | named | refused =>
      obtain ⟨o, ⟨⟩, rfl⟩ := hends
      exact ⟨_, hperform⟩
    | stored hnone | holding hnone => cases hnone
  · intro m hmj c reply he
    obtain ⟨stage, stage', hnext, hknown⟩ := h.exists_next howner hk' hmj he
    obtain ⟨chance, hanswer⟩ := he.exists_answer
    exact Shared.answer_of_not_hasStored hnext
      (hknown.hasStored_eq_false fun x hx => hnone x (hx.trans_le hmj)) hanswer

end Rivals

end Run

/-! ## Three rivals -/

namespace Sample

/-- Three requests create blueprints for one project. The first one saves. The second one has looked
for an owner before that and is refused by the store, the third one looks for an owner after it. -/
def contentionActions : List Action :=
  List.flatten [
    [.addProject atlas],
    List.replicate 3 (.arrive (.create atlasNightly)),
    List.replicate 4 (.proceed 0 chance),
    List.replicate 4 (.proceed 1 { chance with id := .ofNat 2 }),
    List.replicate 5 (.proceed 0 chance),
    List.replicate 2 (.proceed 1 chance),
    List.replicate 4 (.proceed 2 { chance with id := .ofNat 3 })]

def contention : Run {} :=
  .ofActions {} empty contentionActions empty_initial (by decide +kernel)

theorem contention_arrived {k : Nat} (hk : k < 3) :
    (contention.state 4).requests[k]? = some (.arrived (.create atlasNightly)) := by
  match k, hk with
  | 0, _ | 1, _ | 2, _ => rfl

theorem atlasNightly_admissible {m : Memory} (hfound : ∃ p, m.findProject atlas.name = some p)
    (hempty : m.blueprints = Table.empty) (id : Uuid) (t : Instant) :
    (atlasNightly.toBlueprint id t).Admissible {} m where
  name_not_blank := show Text.isBlank midnightly.name = false by decide
  name_length := show midnightly.name.length ≤ 255 by decide
  cron_not_blank _ := show Text.isBlank midnightly.cronConfig = false by decide
  labels_not_blank := by rintro label ⟨⟩
  plugins_not_blank := by rintro c ⟨⟩
  project_found _ := hfound
  project_free _ id o ho := by
    rw [Memory.findBlueprint, hempty] at ho
    cases ho
  cron_readable _ _ := by
    have hread : (Cron.read midnightly.cronConfig).isOk = true := by decide +kernel
    show ∃ schedule, Cron.read midnightly.cronConfig = .ok schedule
    cases hcron : Cron.read midnightly.cronConfig with
    | ok schedule => exact ⟨schedule, rfl⟩
    | error e =>
      rw [hcron] at hread
      cases hread
  stage_present _ := show midnightly.plan.stages ≠ [] by decide
  plan_composed := by rintro ⟨⟩

theorem contention_start : (contention.memory 1).blueprints = Table.empty :=
  rfl

theorem contention_project : ∃ p, (contention.memory 1).findProject atlas.name = some p :=
  Option.isSome_iff_exists.1 (by decide +kernel)

theorem contention_rivals : contention.Rivals 1 23 atlas.name (Finset.range 3) where
  le := by decide
  named := by decide
  found := contention_project
  unowned id b hb := by
    rw [Memory.findBlueprint, contention_start] at hb
    cases hb
  creates k hk := by
    obtain ⟨p, hp, hcommand⟩ := contention.command_stays (j := 23) (by decide)
      (contention_arrived (Finset.mem_range.1 hk))
    exact ⟨atlasNightly, ⟨p, hp, hcommand⟩, rfl,
      atlasNightly_admissible contention_project contention_start⟩
  late k _ m hm c reply he := by
    have hlt : 1 < m := he.lt_of_arrived (i := 1) (Nat.zero_le k)
    omega
  alone w _ hw k hwrites := by
    have hlength : (contention.state 23).requests.length = 3 := by decide +kernel
    exact Finset.mem_range.2 (hlength ▸ hwrites.lt_length hw)
  settings x _ _ m := by
    have hnot : .putMetric m ∉ contentionActions.drop 0 := by simp [contentionActions]
    exact Run.ofActions_action_ne hnot (by rintro ⟨⟩) (Nat.zero_le x)

/-- All three requests have come to their ends. -/
theorem contention_ended {k : Nat} (hk : k < 3) : ∃ result,
    (contention.state 23).requests[k]? = some ⟨.create atlasNightly, .done result⟩ := by
  have hquiet : (contention.state 23).Quiet := by decide +kernel
  obtain ⟨⟨command, rest⟩, hp, hcommand⟩ := contention.command_stays (j := 23) (by decide)
    (contention_arrived hk)
  cases hcommand
  obtain ⟨result, hrest⟩ := hquiet _ (List.mem_of_getElem? hp)
  exact ⟨result, hrest ▸ hp⟩

theorem contention_succeeded : (contention.state 23).Succeeded 0 (.create atlasNightly) :=
  contention.succeeded_of_arrived (by decide) (contention_arrived (by decide)) (by decide +kernel)

end Sample

namespace Run

variable {registry : Registry} {r : Run registry} {i j : Nat} {project : String} {K : Finset Nat}

namespace Rivals

/-- Let requests create blueprints for a project that is there and has no owner at first, each of
them valid otherwise, and let nobody else write. In whichever order they go on, there are two cases
at every moment. As long as the project is open nothing is stored, and none of the requests has
ended. After that exactly one of them has its blueprint stored, and each of the others ends with the
conflict that names this blueprint, and changes neither the store nor the agenda. -/
theorem one_wins (h : r.Rivals i j project K) : r.Undecided i j project K ∨
    ∃ k ∈ K, ∃ b, r.Wins i j k project b ∧ ∀ k' ∈ K, k' ≠ k → r.Loses j k' project b := by
  by_cases hw : ∃ w, i ≤ w ∧ w < j ∧ ∃ k, r.Writes w k
  · obtain ⟨w, hiw, hwj, k, hw⟩ := hw
    obtain ⟨b, hb⟩ := h.exists_stores hiw hwj hw
    exact .inr ⟨k, h.alone w hiw hwj k hw, b, h.wins hb hiw hwj, fun k' hk' hne =>
      h.loses hb hiw hwj hk' hne⟩
  · exact .inl (h.undecided fun w hiw hwj k hk => hw ⟨w, hiw, hwj, k, hk⟩)

/-- The first of the three rivals wins, and the other two have ended with the conflict. -/
theorem contention_one_wins : ∃ b, Sample.contention.Wins 1 23 0 Sample.atlas.name b ∧
    ∀ k < 3, k ≠ 0 → (Sample.contention.state 23).requests[k]? =
      some ⟨.create Sample.atlasNightly,
        .done (.error (.projectConflict Sample.atlas.name b.id b.name))⟩ := by
  rcases one_wins Sample.contention_rivals with hopen | ⟨k, hk, b, hwins, hloses⟩
  · obtain ⟨result, hp⟩ := Sample.contention_ended (k := 1) (by decide)
    exact absurd hp (hopen.running 1 (by decide) _ result)
  have hconflict {k' : Nat} (hk' : k' < 3) (hne : k' ≠ k) :
      (Sample.contention.state 23).requests[k']? = some ⟨.create Sample.atlasNightly,
        .done (.error (.projectConflict Sample.atlas.name b.id b.name))⟩ := by
    obtain ⟨result, hp⟩ := Sample.contention_ended hk'
    rw [(hloses k' (Finset.mem_range.2 hk') hne).result _ result hp] at hp
    exact hp
  obtain rfl : 0 = k := by
    by_contra hne
    obtain ⟨p, hp, -, v, hv⟩ := Sample.contention_succeeded
    obtain rfl := Option.some.inj (hp.symm.trans (hconflict (by decide) hne))
    cases hv
  exact ⟨b, hwins, fun k' hk' hne => hconflict hk' hne⟩

end Rivals

end Run

end Ingestion
