import GiapiGlue.Endpoints.Services

set_option autoImplicit false

/-! # Which endpoints stand

An endpoint stands as long as its singleton refers to it, as a member, from an activity holder or from the map
of EPICS consumers. The invariant `Sound`: the endpoints that stand have acquired what their constructors
acquire and released nothing, or nothing but what a lost connection has closed; all others have ended, apart
from those that were leaked. -/

namespace Giapi

/-- The singleton an endpoint belongs to. -/
def EndpointKind.home : EndpointKind → Service
  | .completionInfoProducer => .commandUtil
  | .statusSender => .statusSenderFactory
  | .obsEventProducer => .dataUtil
  | .fileEventsProducer => .dataUtil
  | .requestProducer => .servicesUtil
  | .logProducer => .servicesUtil
  | .epicsManager => .geminiUtil
  | .pcsUpdater => .geminiUtil
  | .tcsFetcher => .geminiUtil
  | .tcsApplyOffset => .geminiUtil
  | .epicsFetcher => .geminiUtil
  | .sequenceCommandConsumer _ => .commandUtil
  | .epicsConsumer _ => .geminiUtil

theorem Service.home_of_members {service : Service} {kind : EndpointKind} (h : kind ∈ service.members) :
    kind.home = service := by
  cases service <;> simp only [Service.members, List.mem_cons, List.not_mem_nil, or_false] at h <;>
    rcases h with rfl | rfl | rfl | rfl | rfl <;> rfl

theorem Service.members_nodup (service : Service) : (service.members.map some).Nodup := by
  cases service <;> decide

theorem Service.not_consumer_of_members {service : Service} {kind : EndpointKind}
    (h : kind ∈ service.members) :
    (∀ topic, kind ≠ .sequenceCommandConsumer topic) ∧ ∀ name, kind ≠ .epicsConsumer name := by
  cases service <;> simp only [Service.members, List.mem_cons, List.not_mem_nil, or_false] at h <;>
    rcases h with rfl | rfl | rfl | rfl | rfl <;> exact ⟨nofun, nofun⟩

namespace Library

variable {library : Library} {service : Service}

/-- The singleton refers to the endpoint. -/
inductive Refers (library : Library) : Service → Nat → Prop
  | member {service : Service} {ns : List Nat} {n : Nat} (hns : library.members service = some ns)
      (hn : n ∈ ns) : Refers library service n
  | commandConsumer {topic : CxxString} {holder : CountedHolder} {n : Nat}
      (hholder : library.commandHolderMap.lookup topic = some holder) (hn : n ∈ holder.slots.values) :
      Refers library .commandUtil n
  | epicsConsumer {name : CxxString} {n : Nat} (hn : library.epicsConsumersMap.lookup name = some n) :
      Refers library .geminiUtil n

/-- The endpoints that stand. -/
def standing (library : Library) : Set Nat := {n | ∃ service, library.Refers service n}

/-- All that is referred to, or leaked, is of the kind it should be. -/
structure Indexed (leaked : Set Nat) (library : Library) : Prop where
  members : ∀ service ns, library.members service = some ns →
    ns.map library.kind = service.members.map some
  holders : ∀ topic holder, library.commandHolderMap.lookup topic = some holder →
    ∃ created, holder.WellCounted [] created ∧
      ∀ n ∈ created, library.kind n = some (.sequenceCommandConsumer topic)
  consumers : ∀ name n, library.epicsConsumersMap.lookup name = some n →
    library.kind n = some (.epicsConsumer name)
  idleCommandUtil : library.members .commandUtil = none → library.commandHolderMap = ∅
  idleGeminiUtil : library.members .geminiUtil = none → library.epicsConsumersMap = ∅
  leaks : ∀ n ∈ leaked, ∃ kind ∈ Service.dataUtil.members, library.kind n = some kind

/-- The invariant, for these endpoints that are leaked, and these that have lost their connection. -/
structure Sound (leaked lost : Set Nat) (library : Library) : Prop extends Indexed leaked library where
  kept : library.estate.Kept (EndpointKind.lives lost) (library.standing ∪ leaked)
  lost_lt : ∀ n ∈ lost, n < library.estate.objects.length

theorem sound_initial : initial.Sound ∅ ∅ := by
  have hstanding : initial.standing = ∅ := by
    ext n
    refine iff_of_false ?_ id
    rintro ⟨service, h⟩
    cases h with
    | member hns _ => cases hns
    | commandConsumer hholder _ => simp [initial] at hholder
    | epicsConsumer hn => simp [initial] at hn
  refine { members := ?_, holders := ?_, consumers := ?_, idleCommandUtil := ?_, idleGeminiUtil := ?_,
           leaks := ?_, kept := ?_, lost_lt := ?_ }
  · exact fun _ _ h => by cases h
  · exact fun _ _ h => by simp [initial] at h
  · exact fun _ _ h => by simp [initial] at h
  · exact fun _ => rfl
  · exact fun _ => rfl
  · exact fun _ h => h.elim
  · rw [hstanding, Set.union_empty]
    exact Estate.kept_empty
  · exact fun _ h => h.elim

variable {leaked lost : Set Nat}

/-! ## Whose an endpoint is -/

theorem Indexed.kind_of_mem (h : library.Indexed leaked) {ns : List Nat}
    (hns : library.members service = some ns) {n : Nat} (hn : n ∈ ns) :
    ∃ kind ∈ service.members, library.kind n = some kind := by
  have hmem : library.kind n ∈ ns.map library.kind := List.mem_map_of_mem hn
  rw [h.members service ns hns, List.mem_map] at hmem
  obtain ⟨kind, hkind, heq⟩ := hmem
  exact ⟨kind, hkind, heq.symm⟩

theorem Indexed.kind_of_holder (h : library.Indexed leaked) {topic : CxxString} {holder : CountedHolder}
    (hholder : library.commandHolderMap.lookup topic = some holder) {n : Nat}
    (hn : n ∈ holder.slots.values) : library.kind n = some (.sequenceCommandConsumer topic) := by
  obtain ⟨created, hcounted, hkinds⟩ := h.holders topic holder hholder
  exact hkinds n (hcounted.mem_created_of_values hn)

/-- An endpoint that stands belongs to the singleton that refers to it. -/
theorem Indexed.home (h : library.Indexed leaked) {n : Nat} (hn : library.Refers service n) :
    ∃ kind, library.kind n = some kind ∧ kind.home = service := by
  cases hn with
  | member hns hn =>
      obtain ⟨kind, hmem, hkind⟩ := h.kind_of_mem hns hn
      exact ⟨kind, hkind, Service.home_of_members hmem⟩
  | commandConsumer hholder hn => exact ⟨_, h.kind_of_holder hholder hn, rfl⟩
  | epicsConsumer hn => exact ⟨_, h.consumers _ _ hn, rfl⟩

theorem Indexed.home_unique (h : library.Indexed leaked) {service' : Service} {n : Nat}
    (hn : library.Refers service n) (hn' : library.Refers service' n) : service = service' := by
  obtain ⟨kind, hkind, rfl⟩ := h.home hn
  obtain ⟨kind', hkind', rfl⟩ := h.home hn'
  obtain rfl : kind = kind' := Option.some.inj (hkind.symm.trans hkind')
  rfl

/-- A leaked endpoint is none of those of another singleton. -/
theorem Indexed.not_leaked (h : library.Indexed leaked) {n : Nat} (hn : library.Refers service n)
    (hservice : service ≠ .dataUtil) : n ∉ leaked := by
  intro hleaked
  obtain ⟨kind, hmem, hkind⟩ := h.leaks n hleaked
  obtain ⟨kind', hkind', rfl⟩ := h.home hn
  obtain rfl : kind = kind' := Option.some.inj (hkind.symm.trans hkind')
  exact hservice (Service.home_of_members hmem)

/-! ## The estate changes -/

theorem kind_of_prefix {estate : Estate EndpointKind EndpointResource}
    (hobjects : library.estate.objects <+: estate.objects) {n : Nat} {kind : EndpointKind}
    (h : library.kind n = some kind) : estate.objects[n]? = some kind := by
  obtain ⟨more, hmore⟩ := hobjects
  rw [← hmore]
  exact (List.getElem?_append_left (List.getElem?_eq_some_iff.1 h).1).trans h

theorem map_kind_of_prefix {estate : Estate EndpointKind EndpointResource}
    (hobjects : library.estate.objects <+: estate.objects) {ns : List Nat} {kinds : List EndpointKind}
    (h : ns.map library.kind = kinds.map some) :
    ns.map (fun n => estate.objects[n]?) = kinds.map some := by
  rw [← h]
  refine List.map_congr_left fun n hn => ?_
  have hmem : library.kind n ∈ ns.map library.kind := List.mem_map_of_mem hn
  rw [h, List.mem_map] at hmem
  obtain ⟨kind, -, hkind⟩ := hmem
  rw [← hkind]
  exact kind_of_prefix hobjects hkind.symm

theorem standing_withEstate (library : Library) (estate : Estate EndpointKind EndpointResource) :
    ({ library with estate } : Library).standing = library.standing := by
  ext n
  constructor
  all_goals
    rintro ⟨service, hn⟩
    cases hn with
    | member hns hn => exact ⟨_, .member hns hn⟩
    | commandConsumer hholder hn => exact ⟨_, .commandConsumer hholder hn⟩
    | epicsConsumer hn => exact ⟨_, .epicsConsumer hn⟩

/-- More endpoints leave the kinds of the others. -/
theorem Indexed.withEstate (h : library.Indexed leaked) {estate : Estate EndpointKind EndpointResource}
    (hobjects : library.estate.objects <+: estate.objects) :
    ({ library with estate } : Library).Indexed leaked := by
  constructor
  · exact fun service ns hns => map_kind_of_prefix hobjects (h.members service ns hns)
  · intro topic holder hholder
    obtain ⟨created, hcounted, hkinds⟩ := h.holders topic holder hholder
    exact ⟨created, hcounted, fun n hn => kind_of_prefix hobjects (hkinds n hn)⟩
  · exact fun name n hn => kind_of_prefix hobjects (h.consumers name n hn)
  · exact h.idleCommandUtil
  · exact h.idleGeminiUtil
  · intro n hn
    obtain ⟨kind, hmem, hkind⟩ := h.leaks n hn
    exact ⟨kind, hmem, kind_of_prefix hobjects hkind⟩

/-- Endpoints come and go, and the singletons refer to the same. -/
theorem Sound.withEstate (h : library.Sound leaked lost) {estate : Estate EndpointKind EndpointResource}
    (hobjects : library.estate.objects <+: estate.objects)
    (hkept : estate.Kept (EndpointKind.lives lost) (library.standing ∪ leaked)) :
    ({ library with estate } : Library).Sound leaked lost :=
  { h.toIndexed.withEstate hobjects with
    kept := by rwa [standing_withEstate]
    lost_lt := fun n hn => (h.lost_lt n hn).trans_le hobjects.length_le }

/-- An endpoint with a later number has its connection. -/
theorem Sound.begun_born (h : library.Sound leaked lost) {n : Nat} (hn : library.estate.objects.length ≤ n)
    {kind : EndpointKind} {lines : Ledger EndpointResource} (hlines : lines = kind.born) :
    (EndpointKind.lives lost).begun n kind lines :=
  hlines ▸ EndpointKind.begun_born (fun hmem => (h.lost_lt n hmem).not_ge hn) kind

theorem Sound.build (h : library.Sound leaked lost) {kind : EndpointKind} {env : EndpointEnv} {e : Exn}
    {lines : Ledger EndpointResource} (hconstruct : kind.construct env = (.error e, lines)) :
    (library.build kind lines).Sound leaked lost :=
  h.withEstate (List.prefix_append _ _) (h.kept.build_ended (EndpointKind.construct_error hconstruct))

/-! ## A singleton is created -/

theorem members_create (library : Library) (service : Service) (ns : List Nat)
    (estate : Estate EndpointKind EndpointResource) (service' : Service) :
    (library.create service ns estate).members service'
      = if service' = service then some ns else library.members service' :=
  Function.update_apply ..

theorem refers_create_iff {ns : List Nat} {estate : Estate EndpointKind EndpointResource}
    (hnone : library.members service = none) (service' : Service) (n : Nat) :
    (library.create service ns estate).Refers service' n
      ↔ library.Refers service' n ∨ service' = service ∧ n ∈ ns := by
  constructor
  · intro hn
    cases hn with
    | member hns hn =>
        rw [members_create] at hns
        split_ifs at hns with heq
        · obtain rfl := Option.some.inj hns
          exact Or.inr ⟨heq, hn⟩
        · exact Or.inl (.member hns hn)
    | commandConsumer hholder hn => exact Or.inl (.commandConsumer hholder hn)
    | epicsConsumer hn => exact Or.inl (.epicsConsumer hn)
  · rintro (hn | ⟨rfl, hn⟩)
    · cases hn with
      | member hns hn =>
          have hne : service' ≠ service := by
            rintro rfl
            rw [hnone] at hns
            cases hns
          exact .member (by rw [members_create, if_neg hne, hns]) hn
      | commandConsumer hholder hn => exact .commandConsumer hholder hn
      | epicsConsumer hn => exact .epicsConsumer hn
    · exact .member (by rw [members_create, if_pos rfl]) hn

theorem Indexed.create (h : library.Indexed leaked) {ns : List Nat}
    {estate : Estate EndpointKind EndpointResource}
    (hobjects : library.estate.objects <+: estate.objects)
    (hkinds : ns.map (fun n => estate.objects[n]?) = service.members.map some) :
    (library.create service ns estate).Indexed leaked := by
  have hlater := h.withEstate hobjects
  constructor
  · intro service' ns' hns'
    rw [members_create] at hns'
    split_ifs at hns' with hservice
    · subst hservice
      obtain rfl := Option.some.inj hns'
      exact hkinds
    · exact hlater.members service' ns' hns'
  · exact hlater.holders
  · exact hlater.consumers
  · intro hidle
    rw [members_create] at hidle
    split_ifs at hidle
    exact h.idleCommandUtil hidle
  · intro hidle
    rw [members_create] at hidle
    split_ifs at hidle
    exact h.idleGeminiUtil hidle
  · exact hlater.leaks

theorem Sound.create (h : library.Sound leaked lost) (hnone : library.members service = none) {ns : List Nat}
    {estate : Estate EndpointKind EndpointResource}
    (hobjects : library.estate.objects <+: estate.objects)
    (hkept : estate.Kept (EndpointKind.lives lost) (library.standing ∪ leaked ∪ {n | n ∈ ns}))
    (hkinds : ns.map (fun n => estate.objects[n]?) = service.members.map some) :
    (library.create service ns estate).Sound leaked lost := by
  refine { h.toIndexed.create hobjects hkinds with
           kept := ?_, lost_lt := fun n hn => (h.lost_lt n hn).trans_le hobjects.length_le }
  have hset : (library.create service ns estate).standing ∪ leaked
      = library.standing ∪ leaked ∪ {n | n ∈ ns} := by
    ext n
    simp only [standing, Set.mem_union, Set.mem_ofPred_eq, refers_create_iff hnone]
    simp only [exists_or, exists_eq_left, or_right_comm]
  rw [hset]
  exact hkept

/-- `Instance()` keeps the invariant, and the singleton exists if it returns. -/
theorem Sound.getInstance (h : library.Sound leaked lost) (service : Service)
    (env : EndpointKind → EndpointEnv) :
    (library.getInstance service env).2.Sound leaked lost ∧
      ((library.getInstance service env).1 = .ok () →
        (library.getInstance service env).2.members service ≠ none) := by
  unfold Library.getInstance
  cases hmembers : library.members service with
  | some ns => exact ⟨h, fun _ => Option.ne_none_iff_exists'.2 ⟨ns, hmembers⟩⟩
  | none =>
      have hkept := @Estate.Kept.buildAll _ _ _ _ _ _ (fun kind => kind.construct (env kind)) h.kept
        (fun n hn kind lines hok => h.begun_born hn (EndpointKind.construct_ok hok))
        (fun kind e lines herror => EndpointKind.construct_error herror) service.members
      have hobjects := @Estate.objects_buildAll _ _ _ (fun kind => kind.construct (env kind))
        EndpointKind.destroy service.members library.estate
      dsimp only
      split
      · next e estate heq =>
          rw [heq] at hobjects
          exact ⟨h.withEstate hobjects (hkept.1 e estate heq), fun hok => by cases hok⟩
      · next ns estate heq =>
          rw [heq] at hobjects
          refine ⟨h.create hmembers hobjects (hkept.2 ns estate heq) ?_,
            fun _ => Option.ne_none_iff_exists'.2 ⟨ns, ?_⟩⟩
          · obtain ⟨hall, rfl⟩ := Estate.buildAll_ok heq
            rw [hall]
            exact Estate.map_getElem?_range' library.estate.objects service.members
          · rw [members_create, if_pos rfl]

end Library

end Giapi
