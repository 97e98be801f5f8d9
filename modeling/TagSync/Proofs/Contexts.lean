import TagSync.Clients

/-!
# Clients for the contexts that are selected

The contexts that are selected are tried in the order of the file, and there are clients for all of
them or for none (`makeEach_eq_ok_iff`, `makeEach_eq_error_iff`), whatever makes the clients. If the
configuration of a context is made from the context, its cluster and its user only
(`Connector.IsLocal`), then what else is in the file makes no difference (`clients_eq`). Machines
make configurations like that (`Machine.connector_isLocal`).
-/

set_option autoImplicit false

namespace TagSync

/-! ## Selections -/

theorem Settings.wants_iff {s : Settings} {name : String} :
    s.wants name = true ↔ s.clusters.toList = [] ∨ name ∈ s.clusters.toList := by
  rw [wants, Bool.or_eq_true, NameSet.contains_iff_mem, NameSet.isEmpty, NameMap.isEmpty,
    List.isEmpty_iff, NameSet.toList, NameMap.names, List.map_eq_nil_iff]

namespace Kubeconfig

variable {k k' : Kubeconfig} {wants : String → Bool} {name : String}

/-- The contexts that are selected, in the order of the file. -/
def selected (k : Kubeconfig) (wants : String → Bool) : List NamedContext :=
  k.contexts.filter fun c => wants c.name

theorem mem_selected {c : NamedContext} :
    c ∈ k.selected wants ↔ c ∈ k.contexts ∧ wants c.name = true :=
  List.mem_filter

theorem wanted_eq (k : Kubeconfig) (wants : String → Bool) :
    k.wanted wants = (k.selected wants).map (·.name) := by
  rw [wanted, selected, List.filter_map]
  rfl

/-! ## What is said about a context -/

theorem exists_of_context? {e : ContextEntry} (h : k.context? name = some e) :
    ∃ c ∈ k.contexts, c.name = name ∧ c.context = some e := by
  obtain ⟨c, hc, he⟩ := Option.bind_eq_some_iff.mp h
  exact ⟨c, List.mem_of_find?_eq_some hc, by simpa using List.find?_some hc, he⟩

theorem context?_name (distinct : (k.contexts.map (·.name)).Nodup) {c : NamedContext}
    (hc : c ∈ k.contexts) : k.context? c.name = c.context := by
  have hfind : k.contexts.find? (·.name == c.name) = some c := by
    obtain ⟨front, back, hsplit⟩ := List.append_of_mem hc
    rw [hsplit, List.map_append, List.map_cons, List.nodup_append] at distinct
    refine List.find?_eq_some_iff_append.mpr ⟨by simp, front, back, hsplit, fun d hd => ?_⟩
    simpa using distinct.2.2 d.name (List.mem_map_of_mem hd) c.name List.mem_cons_self
  rw [context?, hfind, Option.bind_some]

theorem context?_eq_of_wants (h : wants name = true) :
    k.context? name = ((k.selected wants).find? (·.name == name)).bind (·.context) := by
  -- For a selected name, the test for being selected adds nothing to the test for the name.
  have htest : (fun c : NamedContext => decide (wants c.name = true ∧ (c.name == name) = true)) =
      (·.name == name) := by
    funext c
    by_cases hc : c.name = name
    · simp [hc, h]
    · simp [hc]
  rw [context?, selected, List.find?_filter, htest]

/-- Two files agree on a selection: they have the same selected contexts in the same order, and for
each of these the same cluster and the same user. -/
structure AgreeOn (wants : String → Bool) (k k' : Kubeconfig) : Prop where
  contexts : k.selected wants = k'.selected wants
  clusters : ∀ c ∈ k.selected wants, ∀ e, c.context = some e →
    k.clusters.find? (·.name == e.cluster) = k'.clusters.find? (·.name == e.cluster)
  users : ∀ c ∈ k.selected wants, ∀ e, c.context = some e → ∀ user, e.user = some user →
    k.users.find? (·.name == user) = k'.users.find? (·.name == user)

end Kubeconfig

/-! ## What a configuration is made from -/

namespace Connector

variable {Config Client : Type} {connector : Connector Config Client} {k k' : Kubeconfig}
  {wants : String → Bool} {name : String}

/-- The configuration of a context is made from the context, its cluster and its user only. -/
def IsLocal (connector : Connector Config Client) : Prop :=
  ∀ ⦃k k' : Kubeconfig⦄ ⦃name : String⦄, k.context? name = k'.context? name →
    (∀ e, k.context? name = some e →
      k.cluster? e.cluster = k'.cluster? e.cluster ∧ k.login e = k'.login e) →
    connector.config k name = connector.config k' name

/-- Files that agree on a selection give the same client for each name in it. -/
theorem IsLocal.make_eq (hlocal : connector.IsLocal) (h : Kubeconfig.AgreeOn wants k k')
    (hwants : wants name = true) : connector.make k name = connector.make k' name := by
  have hcontext : k.context? name = k'.context? name := by
    rw [Kubeconfig.context?_eq_of_wants hwants, Kubeconfig.context?_eq_of_wants hwants, h.contexts]
  have hconfig : connector.config k name = connector.config k' name := by
    apply hlocal hcontext
    intro e he
    -- The context is one of the selected ones, so the files agree on what it joins.
    obtain ⟨c, hc, rfl, hjoins⟩ := Kubeconfig.exists_of_context? he
    have hselected : c ∈ k.selected wants := Kubeconfig.mem_selected.mpr ⟨hc, hwants⟩
    constructor
    · unfold Kubeconfig.cluster?
      rw [h.clusters c hselected e hjoins]
    · unfold Kubeconfig.login
      cases huser : e.user with
      | none => rfl
      | some user =>
          have hfound := h.users c hselected e hjoins user huser
          simp only [Option.bind_some, hfound]
  unfold make
  rw [hconfig]

end Connector

/-- On a machine, a configuration is made from the context, its cluster and its user only. -/
theorem Machine.connector_isLocal (m : Machine) : m.connector.IsLocal := by
  intro k k' name hcontext hjoined
  show (k.config m name).mapError _ = (k'.config m name).mapError _
  have hconfig : k.config m name = k'.config m name := by
    unfold Kubeconfig.config
    rw [← hcontext]
    cases he : k.context? name with
    | none => rfl
    | some e =>
        obtain ⟨hcluster, hlogin⟩ := hjoined e he
        simp only [Option.elim_some, bind, Except.bind, hcluster, hlogin]
  rw [hconfig]

namespace Connector

variable {Config Client : Type} {connector : Connector Config Client} {k k' : Kubeconfig}
  {wants : String → Bool} {name : String}

/-! ## Clients in order -/

/-- The first of some contexts that gives no client, and why. -/
def FailsFirst (connector : Connector Config Client) (k : Kubeconfig) (contexts : List NamedContext)
    (e : ClientsError) : Prop :=
  ∃ front c rest, contexts = front ++ c :: rest ∧
    (∀ d ∈ front, ∃ client, connector.make k d.name = .ok client) ∧
    connector.make k c.name = .error e

theorem not_failsFirst_nil {e : ClientsError} : ¬ connector.FailsFirst k [] e := by
  rintro ⟨front, c, rest, hsplit, -⟩
  cases front <;> cases hsplit

theorem failsFirst_cons_iff {d : NamedContext} {contexts : List NamedContext} {e : ClientsError} :
    connector.FailsFirst k (d :: contexts) e ↔ connector.make k d.name = .error e ∨
      (∃ client, connector.make k d.name = .ok client) ∧ connector.FailsFirst k contexts e := by
  constructor
  · rintro ⟨front, c, rest, heq, hfront, hfails⟩
    cases front with
    | nil =>
        obtain ⟨rfl, -⟩ := List.cons_eq_cons.mp heq
        exact Or.inl hfails
    | cons b front =>
        obtain ⟨rfl, rfl⟩ := List.cons_eq_cons.mp heq
        obtain ⟨hd, hfront⟩ := List.forall_mem_cons.mp hfront
        exact Or.inr ⟨hd, front, c, rest, rfl, hfront, hfails⟩
  · rintro (hfails | ⟨hd, front, c, rest, rfl, hfront, hfails⟩)
    · exact ⟨[], d, contexts, rfl, fun _ hmem => (List.not_mem_nil hmem).elim, hfails⟩
    · exact ⟨d :: front, c, rest, rfl, List.forall_mem_cons.mpr ⟨hd, hfront⟩, hfails⟩

/-- If contexts give clients, each of them gives its own. -/
theorem makeEach_eq_ok_iff {names : List String} {clients : List (String × Client)} :
    connector.makeEach k names = .ok clients ↔ clients.map (·.1) = names ∧
      ∀ entry ∈ clients, connector.make k entry.1 = .ok entry.2 := by
  induction names generalizing clients with
  | nil => cases clients <;> simp [makeEach]
  | cons name names ih =>
      constructor
      · intro h
        -- Both the first client and the others have to be there.
        unfold makeEach at h
        split at h
        · cases h
        next hclient =>
        split at h
        · cases h
        next hrest =>
        obtain rfl := Except.ok.inj h
        obtain ⟨hnames, hclients⟩ := ih.mp hrest
        exact ⟨by rw [List.map_cons, hnames], List.forall_mem_cons.mpr ⟨hclient, hclients⟩⟩
      · rintro ⟨hnames, hclients⟩
        cases clients with
        | nil => cases hnames
        | cons entry clients =>
            obtain ⟨rfl, hrest⟩ := List.cons_eq_cons.mp hnames
            obtain ⟨hclient, hclients⟩ := List.forall_mem_cons.mp hclients
            rw [makeEach, hclient, ih.mpr ⟨hrest, hclients⟩]

/-- Contexts give no clients if one of them gives none, and the first that does is reported. -/
theorem makeEach_eq_error_iff {contexts : List NamedContext} {e : ClientsError} :
    connector.makeEach k (contexts.map (·.name)) = .error e ↔
      connector.FailsFirst k contexts e := by
  induction contexts with
  | nil => simp [makeEach, not_failsFirst_nil]
  | cons d contexts ih =>
      rw [failsFirst_cons_iff, ← ih, List.map_cons, makeEach]
      cases connector.make k d.name with
      | error reason => simp
      | ok client => cases connector.makeEach k (contexts.map (·.name)) <;> simp

theorem makeEach_congr {names : List String}
    (h : ∀ name ∈ names, connector.make k name = connector.make k' name) :
    connector.makeEach k names = connector.makeEach k' names := by
  induction names with
  | nil => rfl
  | cons name names ih =>
      obtain ⟨hname, hnames⟩ := List.forall_mem_cons.mp h
      rw [makeEach, makeEach, hname, ih hnames]

/-! ## Clients of a file -/

theorem clients_of_none (h : k.selected wants = []) :
    connector.clients k wants = .error .noContexts := by
  rw [clients, Kubeconfig.wanted_eq, h, List.map_nil]

theorem clients_of_some (h : k.selected wants ≠ []) : connector.clients k wants =
    (connector.makeEach k ((k.selected wants).map (·.name))).map .ofList := by
  rw [clients, Kubeconfig.wanted_eq]
  cases hselected : k.selected wants with
  | nil => exact absurd hselected h
  | cons c contexts => rfl

theorem clients_eq_ok_iff {made : NameMap Client} :
    connector.clients k wants = .ok made ↔ k.selected wants ≠ [] ∧ ∃ entries,
      connector.makeEach k ((k.selected wants).map (·.name)) = .ok entries ∧
        .ofList entries = made := by
  by_cases h : k.selected wants = []
  · simp [clients_of_none h, h]
  · rw [clients_of_some h]
    cases connector.makeEach k ((k.selected wants).map (·.name)) <;> simp [Except.map, h]

theorem clients_eq_error_iff {e : ClientsError} :
    connector.clients k wants = .error e ↔ (k.selected wants = [] ∧ e = .noContexts) ∨
      connector.FailsFirst k (k.selected wants) e := by
  by_cases h : k.selected wants = []
  · simp [clients_of_none h, h, not_failsFirst_nil, eq_comm]
  · rw [clients_of_some h, ← makeEach_eq_error_iff]
    cases connector.makeEach k ((k.selected wants).map (·.name)) <;> simp [Except.map, h]

/-- There are clients exactly if a context is selected and all selected ones give a client. -/
theorem exists_clients_iff : (∃ made, connector.clients k wants = .ok made) ↔
    k.selected wants ≠ [] ∧
      ∀ c ∈ k.selected wants, ∃ client, connector.make k c.name = .ok client := by
  constructor
  · rintro ⟨made, h⟩
    obtain ⟨hsome, entries, hentries, -⟩ := clients_eq_ok_iff.mp h
    obtain ⟨hnames, hclients⟩ := makeEach_eq_ok_iff.mp hentries
    refine ⟨hsome, ?_⟩
    intro c hc
    have hmem : c.name ∈ entries.map (·.1) := hnames ▸ List.mem_map_of_mem hc
    obtain ⟨entry, hentry, hname⟩ := List.mem_map.mp hmem
    exact ⟨entry.2, hname ▸ hclients entry hentry⟩
  · rintro ⟨hsome, hall⟩
    cases hclients : connector.clients k wants with
    | ok made => exact ⟨made, rfl⟩
    | error e =>
        -- The context that is reported would be one of the selected ones.
        rcases clients_eq_error_iff.mp hclients with ⟨hnone, -⟩ | ⟨front, c, rest, hsplit, -, hfails⟩
        · exact absurd hnone hsome
        · have hmem : c ∈ k.selected wants := by simp [hsplit]
          obtain ⟨client, hok⟩ := hall c hmem
          rw [hok] at hfails
          cases hfails

theorem contains_clients_iff {made : NameMap Client} (h : connector.clients k wants = .ok made) :
    made.contains name = true ↔ ∃ c ∈ k.selected wants, c.name = name := by
  obtain ⟨-, entries, hentries, rfl⟩ := clients_eq_ok_iff.mp h
  rw [NameMap.contains_ofList, (makeEach_eq_ok_iff.mp hentries).1, List.mem_map]

/-- The clients are those of the selected contexts. -/
theorem get?_clients_iff {made : NameMap Client} (h : connector.clients k wants = .ok made)
    {client : Client} : made.get? name = some client ↔
      (∃ c ∈ k.selected wants, c.name = name) ∧ connector.make k name = .ok client := by
  -- Only what was made for a name is under it, though a name may have been used twice.
  have hown : ∀ other, made.get? name = some other → connector.make k name = .ok other := by
    obtain ⟨-, entries, hentries, rfl⟩ := clients_eq_ok_iff.mp h
    intro other hother
    have hmem : (name, other) ∈ entries :=
      NameMap.mem_of_mem_ofList (NameMap.get?_eq_some_iff_mem.mp hother)
    exact (makeEach_eq_ok_iff.mp hentries).2 _ hmem
  rw [← contains_clients_iff h, NameMap.contains, Option.isSome_iff_exists]
  constructor
  · intro hget
    exact ⟨⟨client, hget⟩, hown client hget⟩
  · rintro ⟨⟨other, hget⟩, hclient⟩
    obtain rfl := Except.ok.inj ((hown other hget).symm.trans hclient)
    exact hget

/-- Files that agree on a selection give the same clients for it. -/
theorem IsLocal.clients_eq (hlocal : connector.IsLocal) (h : Kubeconfig.AgreeOn wants k k') :
    connector.clients k wants = connector.clients k' wants := by
  by_cases hsome : k.selected wants = []
  · rw [clients_of_none hsome, clients_of_none (h.contexts ▸ hsome)]
  · have hsame : connector.makeEach k ((k.selected wants).map (·.name)) =
        connector.makeEach k' ((k.selected wants).map (·.name)) := by
      apply makeEach_congr
      intro name hname
      obtain ⟨c, hc, rfl⟩ := List.mem_map.mp hname
      exact hlocal.make_eq h (Kubeconfig.mem_selected.mp hc).2
    rw [clients_of_some hsome, clients_of_some (h.contexts ▸ hsome), hsame, h.contexts]

theorem connect_eq {m : Machine} {path text : String} (read : m.readText path = .ok text)
    (parsed : Kubeconfig.parse? text = some k) (wants : String → Bool) :
    connector.connect m path wants = connector.clients k wants := by
  simp only [connect, read, parsed]

end Connector

/-! ## Clients of the file on a machine -/

/-- **There are clients for exactly the selected contexts, or none at all.** A context is selected
if the settings name it or name none; its name stands for it, as names are not repeated. Whatever
makes the clients, there are some if a context is selected and each selected one gives a client, and
these are the clients. Otherwise the first selected context of the file that gives none is reported,
or that none is selected. If configurations are made from a context, its cluster and its user only,
then a file that agrees on these for the selected contexts leads to the same, whatever else it
has. -/
theorem clients_are_all_or_none {Config Client : Type} {connector : Connector Config Client}
    {m : Machine} {s : Settings} {text : String} {k : Kubeconfig} (hlocal : connector.IsLocal)
    (read : m.readText s.kubeconfig = .ok text) (parsed : Kubeconfig.parse? text = some k)
    (distinct : (k.contexts.map (·.name)).Nodup) :
    (∀ name, s.wants name = true ↔ s.clusters.toList = [] ∨ name ∈ s.clusters.toList) ∧
    (∀ c ∈ k.contexts, k.context? c.name = c.context) ∧
    ((∃ made, connector.connect m s.kubeconfig s.wants = .ok made) ↔
      k.selected s.wants ≠ [] ∧
        ∀ c ∈ k.selected s.wants, ∃ client, connector.make k c.name = .ok client) ∧
    (∀ made, connector.connect m s.kubeconfig s.wants = .ok made →
      (∀ name, made.contains name = true ↔ ∃ c ∈ k.selected s.wants, c.name = name) ∧
      ∀ name client, made.get? name = some client ↔
        (∃ c ∈ k.selected s.wants, c.name = name) ∧ connector.make k name = .ok client) ∧
    (∀ e, connector.connect m s.kubeconfig s.wants = .error e ↔
      (k.selected s.wants = [] ∧ e = .noContexts) ∨
        connector.FailsFirst k (k.selected s.wants) e) ∧
    ClientsError.noContexts.message =
      "Failed to parse kubeconfig: no usable contexts found in kubeconfig" ∧
    ∀ other text' k', m.readText other = .ok text' → Kubeconfig.parse? text' = some k' →
      Kubeconfig.AgreeOn s.wants k k' →
      connector.connect m other s.wants = connector.connect m s.kubeconfig s.wants := by
  rw [Connector.connect_eq read parsed]
  refine ⟨?_, ?_, Connector.exists_clients_iff, ?_, ?_, by decide, ?_⟩
  · intro name
    exact Settings.wants_iff
  · intro c hc
    exact Kubeconfig.context?_name distinct hc
  · intro made hmade
    constructor
    · intro name
      exact Connector.contains_clients_iff hmade
    · intro name client
      exact Connector.get?_clients_iff hmade
  · intro e
    exact Connector.clients_eq_error_iff
  · intro other text' k' read' parsed' agree
    rw [Connector.connect_eq read' parsed', hlocal.clients_eq agree]

/-! ### Two files -/

/-- A file with one context, whose user logs in by a command. -/
def plainText : String :=
  "contexts:\n- name: a\n  context:\n    cluster: c\n    user: u\n" ++
  "clusters:\n- name: c\n  cluster:\n    server: http://h\n" ++
  "users:\n- name: u\n  user:\n    exec:\n      command: login\n"

/-- The same with another context, about which nothing is said, as the current one. -/
def crowdedText : String :=
  "current-context: b\n" ++
  "contexts:\n- name: b\n- name: a\n  context:\n    cluster: c\n    user: u\n" ++
  "clusters:\n- name: c\n  cluster:\n    server: http://h\n" ++
  "users:\n- name: u\n  user:\n    exec:\n      command: login\n"

def plain : Kubeconfig where
  clusters := [⟨"c", some { server := some "http://h" }⟩]
  users := [⟨"u", some { command := some { command := some "login" } }⟩]
  contexts := [⟨"a", some { cluster := "c", user := some "u" }⟩]

def crowded : Kubeconfig where
  clusters := plain.clusters
  users := plain.users
  contexts := ⟨"b", none⟩ :: plain.contexts

/-- A machine with both files, and a command that logs in. -/
def twoFiles : Machine where
  read path :=
    if path = "/etc/plain" then .ok (plainText.toList.map fun c => UInt8.ofNat c.toNat)
    else if path = "/etc/crowded" then .ok (crowdedText.toList.map fun c => UInt8.ofNat c.toNat)
    else .error .notFound
  now := default
  programs := { command := fun _ _ => .ok none, service := fun _ => .ok () }

/-- The settings that select the context of the first file. -/
def oneCluster : Settings where
  kubeconfig := "/etc/plain"
  pullSecretPath := "/etc/pull-secret"
  clusters := .ofList ["a"]

theorem broken_context_makes_no_difference :
    twoFiles.readText oneCluster.kubeconfig = .ok plainText ∧
      Kubeconfig.parse? plainText = some plain ∧ (plain.contexts.map (·.name)).Nodup ∧
      (∃ made, connect twoFiles "/etc/plain" oneCluster.wants = .ok made) ∧
      connect twoFiles "/etc/crowded" oneCluster.wants =
        connect twoFiles "/etc/plain" oneCluster.wants := by
  have read : twoFiles.readText oneCluster.kubeconfig = .ok plainText := by
    have hdecode := Text.Utf8.decode_ascii (show plainText.toList.all _ = true by decide +kernel)
    simp [Machine.readText, twoFiles, oneCluster, hdecode]
  have read' : twoFiles.readText "/etc/crowded" = .ok crowdedText := by
    have hdecode := Text.Utf8.decode_ascii (show crowdedText.toList.all _ = true by decide +kernel)
    simp [Machine.readText, twoFiles, hdecode]
  have parsed : Kubeconfig.parse? plainText = some plain := by decide +kernel
  have parsed' : Kubeconfig.parse? crowdedText = some crowded := by decide +kernel
  have agree : Kubeconfig.AgreeOn oneCluster.wants plain crowded := by
    have hselected : crowded.selected oneCluster.wants = plain.selected oneCluster.wants := by
      decide +kernel
    exact ⟨hselected.symm, fun _ _ _ _ => rfl, fun _ _ _ _ _ _ => rfl⟩
  obtain ⟨-, -, hclients, -, -, -, hsame⟩ :=
    clients_are_all_or_none twoFiles.connector_isLocal read parsed (by decide)
  -- The user of the one selected context logs in by the command.
  have hplain : ∀ c ∈ plain.selected oneCluster.wants,
      ∃ client, twoFiles.connector.make plain c.name = .ok client := by
    intro c hc
    obtain rfl := List.mem_singleton.mp (Kubeconfig.mem_selected.mp hc).1
    have hok : (twoFiles.connector.make plain "a").toOption.isSome = true := by decide +kernel
    cases hclient : twoFiles.connector.make plain "a" with
    | ok client => exact ⟨client, rfl⟩
    | error fault => rw [hclient] at hok; cases hok
  exact ⟨read, parsed, by decide, hclients.mpr ⟨by decide +kernel, hplain⟩,
    hsame "/etc/crowded" crowdedText crowded read' parsed' agree⟩

end TagSync
