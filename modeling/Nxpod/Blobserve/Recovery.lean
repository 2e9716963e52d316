import Nxpod.Blobserve.Server

/-!
# Recovery of the Blob Server

A request can be served when there is a run in which it is, without any other request arriving
and with the image that the registry has. Others go on meanwhile, and garbage collection runs.

From every state that careful steps lead to, each request can be served. When its blob is
ready the request finds it. When it is unknown the request downloads it. When somebody else
extracts it, that one makes it ready. Otherwise a download has failed and has left a directory
behind, and then garbage collection removes the directory once it is old enough.

Without care a reference is lost. What is remembered of it is never forgotten, so that all
requests for it fail when its blob was removed.

That a request can be served is a statement about what may happen, not about what will: there is a
run from here in which it is served. This is the strongest that can be said of a server which
others use at the same time, since nothing makes a request go on. The run is put together from
pieces, each of which brings the request one step further (`canBeServed_of_leads`), from the last
piece to the first.

## Main definitions

* `Undisturbed`, `CanBeServed`: A request that is served at last.
* `ServesItself`: A request that is served by steps of its own.
* `Recovers`: No request fails but by its own download, and all others can be served.
* `Frees`: What garbage collection leaves alone, as far as one blob goes.
* `Lost`: A reference whose blob was removed.

## Theorems

* `leads_step`: One step is a run.
* `servesItself_of_ready`: A blob that is ready is found.
* `canBeServed_of_ready`, `canBeServed_of_unknown`, `canBeServed_of_left`: The cases of a blob.
* `recovers_of_careful`: Careful runs recover.
* `lost_forever`: A reference that is lost stays lost.
* `unready_forever`, `unready_after_eviction`: A run that loses a reference.
-/

namespace Nxpod

namespace Blobserve

open Transition Parties

/-! ## Requests that can be served -/

/-- No other request arrives, and the image of a request has certain layers. -/
def Undisturbed (i : Nat) (layers : List String) : Action → Prop
  | .arrive _ => False
  | .resolved j res => j = i → res = some layers
  | _ => True

/-- There is a run between two states in which no other request arrives. -/
abbrev Leads (i : Nat) (layers : List String) : Server → Server → Prop :=
  ReachesWithin step fun _ a => Undisturbed i layers a

/-- There is such a run at the end of which the request was served. -/
def CanBeServed (s : Server) (i : Nat) (layers : List String) : Prop :=
  ∃ t r, Leads i layers s t ∧ t.requests[i]? = some r ∧ r.phase = .answered (.served true)

/-- A request is served by steps of its own. -/
def ServesItself (s : Server) (i : Nat) (ref : String) : Prop :=
  ∃ n t, runActions step (List.replicate n (.go i)) s = some t ∧
    t.requests[i]? = some ⟨ref, .answered (.served true)⟩

/-- No request was answered with an error of the server. The others can be served, and so can
one that arrives later. Those that wait for a blob that is ready are served by it. -/
structure Recovers (s : Server) : Prop where
  answers : ∀ r ∈ s.requests, ∀ a, r.phase = .answered a → a.Proper
  waiting : ∀ i r, s.requests[i]? = some r → (∀ a, r.phase ≠ .answered a) →
    ∀ blobLayer rest, CanBeServed s i (blobLayer :: rest)
  later : ∀ ref blobLayer rest, ∃ s', step s (.arrive ref) = some s' ∧
    CanBeServed s' s.requests.length (blobLayer :: rest)
  shared : ∀ i ref dgst access, s.requests[i]? = some ⟨ref, .looping dgst access⟩ →
    s.disk.ready.lookup dgst ≠ none → ServesItself s i ref

variable {s t : Server} {i j : Nat} {ref ref' dgst : String} {layers : List String}
  {old new : Phase} {r : Request}

/-- One step is a run. -/
theorem leads_step {a : Action} (h : step s a = some t) (ha : Undisturbed i layers a) :
    Leads i layers s t :=
  .step s s t a (.refl s) ha h

theorem canBeServed_of_leads (h : Leads i layers s t) (ht : CanBeServed t i layers) :
    CanBeServed s i layers := by
  rcases ht with ⟨u, r, hu, hr, hphase⟩
  exact ⟨u, r, reachesWithin_trans h hu, hr, hphase⟩

/-- A request that is there can go on if its phase lets it. -/
theorem step_go (hi : s.requests[i]? = some ⟨ref, old⟩) : step s (.go i) = s.go i ref old := by
  simp only [step, hi]

theorem setRequest_self (hi : s.requests[i]? = some r) :
    (s.setRequest i ref new).requests[i]? = some ⟨ref, new⟩ := by
  rw [Server.setRequest, List.getElem?_set_self (List.getElem?_eq_some_iff.mp hi).1]

theorem setRequest_other (hne : j ≠ i) :
    (s.setRequest i ref new).requests[j]? = s.requests[j]? := by
  rw [Server.setRequest, List.getElem?_set_ne (Ne.symm hne)]

/-! ### A blob that is ready -/

/-- The same for steps of the request's own. -/
theorem servesItself_of_step (h : step s (.go i) = some t) (ht : ServesItself t i ref) :
    ServesItself s i ref := by
  rcases ht with ⟨n, u, hrun, hserved⟩
  refine ⟨n + 1, u, ?_, hserved⟩
  rw [List.replicate_succ]
  simp only [runActions, h, hrun]

theorem canBeServed_of_servesItself (h : ServesItself s i ref) : CanBeServed s i layers := by
  have hleads : ∀ (n : Nat) (s t : Server),
      runActions step (List.replicate n (.go i)) s = some t → Leads i layers s t := by
    intro n
    induction n with
    | zero =>
        intro s t hrun
        rw [List.replicate_zero, runActions, Option.some.injEq] at hrun
        exact hrun ▸ .refl s
    | succ n ih =>
        intro s t hrun
        rw [List.replicate_succ] at hrun
        simp only [runActions] at hrun
        split at hrun
        · exact absurd hrun (by simp only [reduceCtorEq, not_false_eq_true])
        · next u hu => exact reachesWithin_trans (leads_step hu trivial) (ih u t hrun)
  rcases h with ⟨n, t, hrun, hserved⟩
  exact ⟨t, _, hleads n s t hrun, hserved, rfl⟩

/-- A request that has found its blob is served at the next step. -/
theorem servesItself_of_found (hi : s.requests[i]? = some ⟨ref, .found dgst true⟩) :
    ServesItself s i ref := by
  have hserved : (({ s with refcache := s.refcache.insert ref dgst } : Server).setRequest i ref
      (.answered (.served true))).requests[i]? = some ⟨ref, .answered (.served true)⟩ :=
    setRequest_self hi
  exact servesItself_of_step (step_go hi) ⟨0, _, rfl, hserved⟩

/-- Who waits for a blob that is ready goes on looking for it and is served. -/
theorem servesItself_of_ready {access : Access}
    (hi : s.requests[i]? = some ⟨ref, .looping dgst access⟩) {dir : Dir}
    (hdir : s.disk.dirs.lookup dgst = some dir) (hcomplete : dir.complete = true)
    (hready : s.disk.ready.lookup dgst ≠ none) : ServesItself s i ref := by
  rcases Option.ne_none_iff_exists'.mp hready with ⟨_, hsome⟩
  -- from the last access of the three back to the first
  have hused : ∀ s : Server, s.requests[i]? = some ⟨ref, .looping dgst .used⟩ →
      s.disk.dirs.lookup dgst = some dir → ServesItself s i ref := by
    intro s hi hdir
    have hstep := step_go hi
    simp only [Server.go, Disk.get, hdir, Option.any_some, hcomplete] at hstep
    exact servesItself_of_step hstep
      (servesItself_of_found (setRequest_self (s := s.setDisk _) hi))
  have hmarker : ∀ s : Server, s.requests[i]? = some ⟨ref, .looping dgst .ready⟩ →
      s.disk.dirs.lookup dgst = some dir → s.disk.ready.lookup dgst = some () →
        ServesItself s i ref := by
    intro s hi hdir hsome
    have hstep := step_go hi
    simp only [Server.go, Disk.get, hsome] at hstep
    exact servesItself_of_step hstep (hused _ (setRequest_self (s := s.setDisk _) hi) hdir)
  cases access with
  | used => exact hused s hi hdir
  | ready => exact hmarker s hi hdir hsome
  | dir =>
      have hstep := step_go hi
      simp only [Server.go, Disk.get, hdir] at hstep
      exact servesItself_of_step hstep
        (hmarker _ (setRequest_self (s := s.setDisk _) hi) hdir hsome)

theorem canBeServed_of_ready {access : Access}
    (hi : s.requests[i]? = some ⟨ref, .looping dgst access⟩) {dir : Dir}
    (hdir : s.disk.dirs.lookup dgst = some dir) (hcomplete : dir.complete = true)
    (hready : s.disk.ready.lookup dgst ≠ none) : CanBeServed s i layers :=
  canBeServed_of_servesItself (servesItself_of_ready hi hdir hcomplete hready)

/-! ### A blob that is extracted -/

/-- A request makes its blob ready, and the other requests stay where they are. -/
def MakesReady (i : Nat) (layers : List String) (s : Server) (j : Nat) (ref dgst : String) : Prop :=
  ∃ t dir, Leads i layers s t ∧ t.requests = s.requests.set j ⟨ref, .looping dgst .dir⟩ ∧
    t.disk.dirs.lookup dgst = some dir ∧ dir.complete = true ∧ t.disk.ready.lookup dgst ≠ none

/-- It is enough to come closer to it by one step. -/
theorem makesReady_of_step {a : Action} {disk : Disk}
    (h : step s a = some ((s.setDisk disk).setRequest j ref new)) (ha : Undisturbed i layers a)
    (ht : MakesReady i layers ((s.setDisk disk).setRequest j ref new) j ref dgst) :
    MakesReady i layers s j ref dgst := by
  rcases ht with ⟨t, dir, hlead, hrequests, hready⟩
  refine ⟨t, dir, reachesWithin_trans (leads_step h ha) hlead, ?_, hready⟩
  rw [hrequests, Server.setRequest, List.set_set, Server.setDisk]

/-- A request that writes markers writes the last one at last. -/
theorem makesReady_of_writing {id size : Nat} {m : Marker} {dir : Dir}
    (hdir : s.disk.dirs.lookup dgst = some dir) (hcomplete : dir.complete = true)
    (hj : s.requests[j]? = some ⟨ref, .writing dgst id size m⟩) :
    MakesReady i layers s j ref dgst := by
  have hready : ∀ s : Server, s.disk.dirs.lookup dgst = some dir →
      s.requests[j]? = some ⟨ref, .writing dgst id size .ready⟩ →
      MakesReady i layers s j ref dgst := by
    intro s hdir hj
    refine ⟨_, dir, leads_step (a := .go j) (step_go hj) trivial, rfl, hdir, hcomplete, ?_⟩
    rw [Server.setRequest, Server.setDisk, Disk.mark, AList.lookup_insert]
    intro hc
    cases hc
  have hused : ∀ s : Server, s.disk.dirs.lookup dgst = some dir →
      s.requests[j]? = some ⟨ref, .writing dgst id size .used⟩ →
      MakesReady i layers s j ref dgst := by
    intro s hdir hj
    refine makesReady_of_step (a := .go j) (step_go hj) trivial (hready _ hdir ?_)
    exact setRequest_self (s := s.setDisk (s.disk.mark s.now dgst size .used)) hj
  cases m with
  | ready => exact hready s hdir hj
  | used => exact hused s hdir hj
  | size =>
      refine makesReady_of_step (a := .go j) (step_go hj) trivial (hused _ hdir ?_)
      exact setRequest_self (s := s.setDisk (s.disk.mark s.now dgst size .size)) hj

/-- A request that extracts a blob extracts all of it. -/
theorem makesReady_of_works {id : Nat} (hj : s.requests[j]? = some ⟨ref, old⟩)
    (hworks : old.works = some (dgst, id)) (hholds : old.Holds s.disk.dirs) :
    MakesReady i layers s j ref dgst := by
  cases old with
  | extracting dgst' id' =>
      rw [Phase.works, Option.some.injEq, Prod.mk.injEq] at hworks
      rw [hworks.1] at hholds hj
      rcases hholds with ⟨dir, hdir, hid⟩
      have hunpacked : s.disk.unpacked dgst id' =
          { s.disk with dirs := s.disk.dirs.insert dgst { dir with complete := true } } := by
        rw [Disk.unpacked, hdir]
        exact if_pos hid
      -- The rest of the archive is unpacked in one step.
      have hstep : step s (.untarred j (some 0)) =
          some ((s.setDisk (s.disk.unpacked dgst id')).setRequest j ref
            (.writing dgst id' 0 .size)) := by
        simp only [step, hj]
      have hwriting : ((s.setDisk (s.disk.unpacked dgst id')).setRequest j ref
          (.writing dgst id' 0 .size)).requests[j]? = some ⟨ref, .writing dgst id' 0 .size⟩ :=
        setRequest_self (s := s.setDisk (s.disk.unpacked dgst id')) hj
      have hdir' : (s.disk.unpacked dgst id').dirs.lookup dgst =
          some { dir with complete := true } := by
        rw [hunpacked]
        exact AList.lookup_insert _
      exact makesReady_of_step hstep trivial (makesReady_of_writing hdir' rfl hwriting)
  | writing dgst' id' size m =>
      rw [Phase.works, Option.some.injEq, Prod.mk.injEq] at hworks
      rw [hworks.1] at hholds hj
      rcases hholds with ⟨dir, hdir, _, hcomplete⟩
      exact makesReady_of_writing hdir hcomplete hj
  | _ => cases hworks

/-- Who extracts the blob makes it ready and then finds it. -/
theorem canBeServed_of_works {id : Nat} (hi : s.requests[i]? = some ⟨ref, old⟩)
    (hworks : old.works = some (dgst, id)) (hholds : old.Holds s.disk.dirs) :
    CanBeServed s i layers := by
  have hmakes : MakesReady i layers s i ref dgst := makesReady_of_works hi hworks hholds
  rcases hmakes with ⟨t, dir, hlead, hrequests, hdir, hcomplete, hready⟩
  have hlooping : t.requests[i]? = some ⟨ref, .looping dgst .dir⟩ := by
    rw [hrequests, List.getElem?_set_self (List.getElem?_eq_some_iff.mp hi).1]
  exact canBeServed_of_leads hlead (canBeServed_of_ready hlooping hdir hcomplete hready)

/-- Who waits for a blob is served when somebody else has extracted it. -/
theorem canBeServed_of_other {id : Nat} (hi : s.requests[i]? = some ⟨ref, .looping dgst .dir⟩)
    (hr : r ∈ s.requests) (hworks : r.phase.works = some (dgst, id))
    (hholds : r.phase.Holds s.disk.dirs) : CanBeServed s i layers := by
  rcases List.getElem?_of_mem hr with ⟨j, hj⟩
  have hne : i ≠ j := fun hc => by
    rw [← hc, hi, Option.some.injEq] at hj
    rw [← hj] at hworks
    exact nomatch hworks
  have hmakes : MakesReady i layers s j r.ref dgst := makesReady_of_works hj hworks hholds
  rcases hmakes with ⟨t, dir, hlead, hrequests, hdir, hcomplete, hready⟩
  have hlooping : t.requests[i]? = some ⟨ref, .looping dgst .dir⟩ := by
    rw [hrequests, List.getElem?_set_ne (Ne.symm hne), hi]
  exact canBeServed_of_leads hlead (canBeServed_of_ready hlooping hdir hcomplete hready)

/-! ### A blob that is unknown -/

/-- The request makes the directory and extracts to it. -/
theorem canBeServed_of_absent (hi : s.requests[i]? = some ⟨ref, .absent dgst⟩)
    (hnone : s.disk.dirs.lookup dgst = none) : CanBeServed s i layers := by
  have hmade : s.disk.makeDir s.now dgst = (s.disk.made, { s.disk with
      dirs := s.disk.dirs.insert dgst ⟨s.disk.made, s.now, false⟩
      made := s.disk.made + 1 }) := by
    rw [Disk.makeDir, hnone]
  have hstep := step_go hi
  simp only [Server.go, hmade] at hstep
  refine canBeServed_of_leads (leads_step hstep trivial) (canBeServed_of_works
    (setRequest_self (s := s.setDisk _) hi) rfl ?_)
  exact ⟨⟨s.disk.made, s.now, false⟩, AList.lookup_insert _, rfl⟩

/-- Before this it finds that there is no such directory. -/
theorem canBeServed_of_opened (hi : s.requests[i]? = some ⟨ref, .opened dgst⟩)
    (hnone : s.disk.dirs.lookup dgst = none) : CanBeServed s i layers := by
  have hstep := step_go hi
  simp only [Server.go, hnone] at hstep
  exact canBeServed_of_leads (leads_step hstep trivial)
    (canBeServed_of_absent (setRequest_self hi) hnone)

theorem canBeServed_of_fetching (hi : s.requests[i]? = some ⟨ref, .unknown dgst⟩)
    (hnone : s.disk.dirs.lookup dgst = none) : CanBeServed s i layers := by
  have hstep : step s (.fetched i true) = some (s.setRequest i ref (.opened dgst)) := by
    simp only [step, hi, if_pos]
  exact canBeServed_of_leads (leads_step hstep trivial)
    (canBeServed_of_opened (setRequest_self hi) hnone)

/-- Who finds a blob unknown downloads it. -/
theorem canBeServed_of_unknown (hi : s.requests[i]? = some ⟨ref, .looping dgst .dir⟩)
    (hnone : s.disk.dirs.lookup dgst = none) : CanBeServed s i layers := by
  have hstep := step_go hi
  simp only [Server.go, Disk.get, hnone] at hstep
  exact canBeServed_of_leads (leads_step hstep trivial)
    (canBeServed_of_fetching (setRequest_self (s := s.setDisk s.disk) hi) hnone)

/-! ### A directory that was left behind -/

/-- What garbage collection leaves alone, as far as one blob goes. -/
structure Frees (dgst : String) (s t : Server) : Prop where
  requests : t.requests = s.requests
  now : t.now = s.now
  maxSize : t.maxSize = s.maxSize
  dirs : t.disk.dirs.lookup dgst = s.disk.dirs.lookup dgst ∨ t.disk.dirs.lookup dgst = none
  ready : s.disk.ready.lookup dgst = none → t.disk.ready.lookup dgst = none

/-- Steps that leave the rest alone can be taken one after the other. -/
theorem frees_trans {u : Server} (h₁ : Frees dgst s t) (h₂ : Frees dgst t u) : Frees dgst s u where
  requests := h₂.requests.trans h₁.requests
  now := h₂.now.trans h₁.now
  maxSize := h₂.maxSize.trans h₁.maxSize
  dirs := by
    rcases h₂.dirs with hsame | hnone
    · rw [hsame]
      exact h₁.dirs
    · exact .inr hnone
  ready hnone := h₂.ready (h₁.ready hnone)

/-- One step of garbage collection in which nothing fails. -/
def collected (s : Server) : Server :=
  { s with
    gc := (collect s.maxSize s.now false s.disk s.gc).1
    disk := (collect s.maxSize s.now false s.disk s.gc).2 }

theorem leads_collected (hon : s.maxSize > 0) : Leads i layers s (collected s) := by
  refine leads_step (a := .collect false) ?_ trivial
  simp only [step, if_pos hon]
  rfl

/-- One step of it leaves the requests and all other blobs alone. -/
theorem frees_collected (s : Server) (dgst : String) : Frees dgst s (collected s) := by
  have hdisk : (collected s).disk.dirs.lookup dgst = s.disk.dirs.lookup dgst ∨
      (collected s).disk.dirs.lookup dgst = none := by
    rcases effect_of_collect s false with hsame | ⟨_, ⟨name, m, hmarker, _⟩ | ⟨name, hdir, _⟩⟩
    · exact .inl (by rw [collected, hsame])
    · left
      rw [collected, hmarker]
      cases m <;> rfl
    · rw [collected, hdir, Disk.removeDir, Map.lookup_erase_eq_ite]
      split
      · exact .inr rfl
      · exact .inl rfl
  have hready : s.disk.ready.lookup dgst = none →
      (collected s).disk.ready.lookup dgst = none := by
    intro hnone
    rcases effect_of_collect s false with hsame | ⟨_, ⟨name, m, hmarker, _⟩ | ⟨name, hdir, _⟩⟩
    · rw [collected, hsame, hnone]
    · rw [collected, hmarker]
      cases m with
      | ready => rw [Disk.removeMarker, Map.lookup_erase_eq_ite, hnone, ite_self]
      | _ => exact hnone
    · rw [collected, hdir]
      exact hnone
  exact ⟨rfl, rfl, rfl, hdisk, hready⟩

/-- Garbage collection comes to its end from a state. -/
def Ends (i : Nat) (layers : List String) (dgst : String) (s : Server) : Prop :=
  ∃ t, Leads i layers s t ∧ t.gc = .waiting ∧ Frees dgst s t

theorem ends_of_collected (hon : s.maxSize > 0) (h : Ends i layers dgst (collected s)) :
    Ends i layers dgst s := by
  rcases h with ⟨t, hlead, hgc, hfrees⟩
  exact ⟨t, reachesWithin_trans (leads_collected hon) hlead, hgc,
    frees_trans (frees_collected s dgst) hfrees⟩

theorem ends_of_waiting (hgc : s.gc = .waiting) : Ends i layers dgst s :=
  ⟨s, .refl s, hgc, rfl, rfl, rfl, .inl rfl, id⟩

/-- What is removed of a blob is removed in a row. -/
theorem ends_of_removing {blob : GcBlob} {blobs : List GcBlob}
    (hnext : ∀ s : Server, s.maxSize > 0 → ∀ total, s.gc = .evicting blobs total →
      Ends i layers dgst s)
    (removal : Removal) (hon : s.maxSize > 0) (total : Int)
    (hgc : s.gc = .removing blob removal blobs total) : Ends i layers dgst s := by
  -- From the last thing that is removed of a blob back to the first.
  have hdir : ∀ s : Server, s.maxSize > 0 → s.gc = .removing blob .dir blobs total →
      Ends i layers dgst s := by
    intro s hon hgc
    refine ends_of_collected hon (hnext (collected s) hon (wrap (total - blob.size)) ?_)
    rw [collected, hgc]
    rfl
  have hused : ∀ s : Server, s.maxSize > 0 →
      s.gc = .removing blob (.marker .used) blobs total → Ends i layers dgst s := by
    intro s hon hgc
    refine ends_of_collected hon (hdir (collected s) hon ?_)
    rw [collected, hgc]
    rfl
  have hsize : ∀ s : Server, s.maxSize > 0 →
      s.gc = .removing blob (.marker .size) blobs total → Ends i layers dgst s := by
    intro s hon hgc
    refine ends_of_collected hon (hused (collected s) hon ?_)
    rw [collected, hgc]
    rfl
  cases removal with
  | dir => exact hdir s hon hgc
  | marker m =>
      cases m with
      | used => exact hused s hon hgc
      | size => exact hsize s hon hgc
      | ready =>
          refine ends_of_collected hon (hsize (collected s) hon ?_)
          rw [collected, hgc]
          rfl

theorem ends_of_evicting (blobs : List GcBlob) : ∀ s : Server, s.maxSize > 0 → ∀ total,
    s.gc = .evicting blobs total → Ends i layers dgst s := by
  induction blobs with
  | nil =>
      intro s hon total hgc
      refine ends_of_collected hon (ends_of_waiting ?_)
      rw [collected, hgc]
      rfl
  | cons blob blobs ih =>
      intro s hon total hgc
      by_cases htotal : total > s.maxSize
      · have hgc' : (collected s).gc = .removing blob (.marker .ready) blobs total := by
          rw [collected, hgc, collect, if_pos htotal]
        exact ends_of_collected hon (ends_of_removing ih (.marker .ready) hon total hgc')
      · refine ends_of_collected hon (ends_of_waiting ?_)
        rw [collected, hgc, collect, if_neg htotal]

/-- What garbage collection reads of a blob it reads in a row, and then it goes on to the next
directory. -/
theorem ends_of_judging {files : List (String × Nat)}
    (hnext : ∀ s : Server, s.maxSize > 0 → ∀ blobs, s.gc = .scanning files blobs →
      Ends i layers dgst s)
    (s : Server) (hon : s.maxSize > 0) (blob : GcBlob) (blobs : List GcBlob)
    (hgc : s.gc = .judging blob files blobs) : Ends i layers dgst s := by
  by_cases hstale : isStale s.now blob = true
  · refine ends_of_collected hon (hnext (collected s) hon blobs ?_)
    rw [collected, hgc, collect, if_pos hstale]
  · refine ends_of_collected hon (hnext (collected s) hon (blobs ++ [blob]) ?_)
    rw [collected, hgc, collect, if_neg hstale]

theorem ends_of_readingUsed {files : List (String × Nat)}
    (hnext : ∀ s : Server, s.maxSize > 0 → ∀ blobs, s.gc = .scanning files blobs →
      Ends i layers dgst s)
    (s : Server) (hon : s.maxSize > 0) (blob : GcBlob) (blobs : List GcBlob)
    (hgc : s.gc = .readingUsed blob files blobs) : Ends i layers dgst s := by
  refine ends_of_collected hon (ends_of_judging hnext (collected s) hon
    (readUsed s.disk blob) blobs ?_)
  rw [collected, hgc]
  rfl

theorem ends_of_readingSize {files : List (String × Nat)}
    (hnext : ∀ s : Server, s.maxSize > 0 → ∀ blobs, s.gc = .scanning files blobs →
      Ends i layers dgst s)
    (s : Server) (hon : s.maxSize > 0) (blob : GcBlob) (blobs : List GcBlob)
    (hgc : s.gc = .readingSize blob files blobs) : Ends i layers dgst s := by
  refine ends_of_collected hon (ends_of_readingUsed hnext (collected s) hon
    (readSize s.disk blob) blobs ?_)
  rw [collected, hgc]
  rfl

theorem ends_of_scanning (files : List (String × Nat)) : ∀ s : Server, s.maxSize > 0 →
    ∀ blobs, s.gc = .scanning files blobs → Ends i layers dgst s := by
  induction files with
  | nil =>
      intro s hon blobs hgc
      by_cases htotal : totalSize blobs > s.maxSize
      · have hgc' : (collected s).gc = .evicting
            (blobs.insertionSort fun a b => a.lastUsed ≤ b.lastUsed) (totalSize blobs) := by
          rw [collected, hgc, collect, if_pos htotal]
        exact ends_of_collected hon (ends_of_evicting _ (collected s) hon _ hgc')
      · refine ends_of_collected hon (ends_of_waiting ?_)
        rw [collected, hgc, collect, if_neg htotal]
  | cons file files ih =>
      intro s hon blobs hgc
      rcases file with ⟨name, modTime⟩
      cases hready : s.disk.ready.lookup name with
      | none =>
          refine ends_of_collected hon (ends_of_judging ih (collected s) hon
            (newGcBlob name modTime) blobs ?_)
          rw [collected, hgc, collect, hready]
      | some _ =>
          refine ends_of_collected hon (ends_of_readingSize ih (collected s) hon
            (newGcBlob name modTime) blobs ?_)
          rw [collected, hgc, collect, hready]

/-- Garbage collection comes to its end from every state. -/
theorem ends (hon : s.maxSize > 0) : Ends i layers dgst s := by
  cases hgc : s.gc with
  | waiting => exact ends_of_waiting hgc
  | scanning files blobs => exact ends_of_scanning files s hon blobs hgc
  | readingSize blob files blobs =>
      exact ends_of_readingSize (ends_of_scanning files) s hon blob blobs hgc
  | readingUsed blob files blobs =>
      exact ends_of_readingUsed (ends_of_scanning files) s hon blob blobs hgc
  | judging blob files blobs =>
      exact ends_of_judging (ends_of_scanning files) s hon blob blobs hgc
  | evicting blobs total => exact ends_of_evicting blobs s hon total hgc
  | removing blob removal blobs total =>
      exact ends_of_removing (ends_of_evicting blobs) removal hon total hgc

/-- Garbage collection goes on to the next directory, whatever it makes of this one. -/
theorem leads_scanned (i : Nat) (layers : List String) (dgst : String) {file : String × Nat}
    {files : List (String × Nat)} {blobs : List GcBlob} (hon : s.maxSize > 0)
    (hgc : s.gc = .scanning (file :: files) blobs) :
    ∃ t blobs', Leads i layers s t ∧ Frees dgst s t ∧ t.gc = .scanning files blobs' := by
  have hjudging : ∀ (s : Server) (blob : GcBlob), s.maxSize > 0 →
      s.gc = .judging blob files blobs →
        ∃ t blobs', Leads i layers s t ∧ Frees dgst s t ∧ t.gc = .scanning files blobs' := by
    intro s blob hon hgc
    refine ⟨collected s, if isStale s.now blob then blobs else blobs ++ [blob],
      leads_collected hon, frees_collected s dgst, ?_⟩
    rw [collected, hgc, collect]
    split <;> rfl
  have hbefore : ∀ s : Server, s.maxSize > 0 →
      (∃ t blobs', Leads i layers (collected s) t ∧ Frees dgst (collected s) t ∧
        t.gc = .scanning files blobs') →
      ∃ t blobs', Leads i layers s t ∧ Frees dgst s t ∧ t.gc = .scanning files blobs' := by
    rintro s hon ⟨t, blobs', hlead, hfrees, hgc⟩
    exact ⟨t, blobs', reachesWithin_trans (leads_collected hon) hlead,
      frees_trans (frees_collected s dgst) hfrees, hgc⟩
  rcases file with ⟨name, modTime⟩
  cases hready : s.disk.ready.lookup name with
  | none =>
      refine hbefore s hon (hjudging (collected s) (newGcBlob name modTime) hon ?_)
      rw [collected, hgc, collect, hready]
  | some _ =>
      have hsize : (collected s).gc = .readingSize (newGcBlob name modTime) files blobs := by
        rw [collected, hgc, collect, hready]
      refine hbefore s hon (hbefore (collected s) hon (hbefore (collected (collected s)) hon
        (hjudging _ (readUsed (collected (collected s)).disk
          (readSize (collected s).disk (newGcBlob name modTime))) hon ?_)))
      have hused : (collected (collected s)).gc =
          .readingUsed (readSize (collected s).disk (newGcBlob name modTime)) files blobs := by
        rw [collected, hsize]
        rfl
      rw [collected, hused]
      rfl

/-- An old directory that is not ready is removed when garbage collection comes to it. -/
theorem leads_removed (i : Nat) (layers : List String) {modTime : Nat}
    (files : List (String × Nat)) : ∀ s : Server,
    s.maxSize > 0 → s.disk.ready.lookup dgst = none → s.now - modTime > minBlobAge →
    (dgst, modTime) ∈ files → ∀ blobs, s.gc = .scanning files blobs →
    ∃ t, Leads i layers s t ∧ t.requests = s.requests ∧ t.disk.dirs.lookup dgst = none := by
  induction files with
  | nil => exact fun _ _ _ _ hmem => absurd hmem List.not_mem_nil
  | cons file files ih =>
      intro s hon hready hold hmem blobs hgc
      rcases List.mem_cons.mp hmem with hhead | htail
      · -- the marker is looked for, and then the directory is judged
        have hgc' : (collected s).gc = .judging (newGcBlob dgst modTime) files blobs := by
          rw [collected, hgc, ← hhead, collect, hready]
        have hstale : isStale (collected s).now (newGcBlob dgst modTime) = true := by
          rw [isStale, Bool.and_eq_true]
          exact ⟨rfl, decide_eq_true hold⟩
        refine ⟨collected (collected s),
          reachesWithin_trans (leads_collected hon) (leads_collected hon), rfl, ?_⟩
        rw [collected, hgc', collect, if_pos hstale]
        exact (Map.lookup_erase_eq_ite ..).trans (if_pos rfl)
      · rcases leads_scanned i layers dgst hon hgc with ⟨t, blobs', hlead, hfrees, hgc'⟩
        rcases ih t (hfrees.maxSize ▸ hon) (hfrees.ready hready) (hfrees.now ▸ hold) htail blobs'
          hgc' with ⟨u, hlead', hrequests, hnone⟩
        exact ⟨u, reachesWithin_trans hlead hlead', hrequests.trans hfrees.requests, hnone⟩

/-- After some time garbage collection starts again. -/
theorem leads_started (i : Nat) (layers : List String) (hon : s.maxSize > 0)
    (hgc : s.gc = .waiting) (n : Nat) :
    ∃ t, Leads i layers s t ∧ t.gc = .scanning (readDir s.disk) [] ∧ t.disk = s.disk ∧
      t.requests = s.requests ∧ t.now = s.now + n ∧ t.maxSize = s.maxSize := by
  have htick : Leads i layers s { s with now := s.now + n } := leads_step (a := .tick n) rfl trivial
  refine ⟨collected { s with now := s.now + n },
    reachesWithin_trans htick (leads_collected hon), ?_, ?_, rfl, rfl, rfl⟩
  · rw [collected, hgc]
    rfl
  · rw [collected, hgc]
    rfl

/-- What a failed download has left behind is removed, and then the blob is unknown. -/
theorem canBeServed_of_left (hon : s.maxSize > 0)
    (hi : s.requests[i]? = some ⟨ref, .looping dgst .dir⟩)
    (hready : s.disk.ready.lookup dgst = none) : CanBeServed s i layers := by
  have hends : Ends i layers dgst s := ends hon
  rcases hends with ⟨t, hlead, hgc, hfrees⟩
  refine canBeServed_of_leads hlead ?_
  have hi' : t.requests[i]? = some ⟨ref, .looping dgst .dir⟩ := by rw [hfrees.requests, hi]
  have hon' : t.maxSize > 0 := by rw [hfrees.maxSize]; exact hon
  cases hdir : t.disk.dirs.lookup dgst with
  | none => exact canBeServed_of_unknown hi' hdir
  | some dir =>
      -- time passes until the directory is old enough, and then garbage collection starts again
      have hold : t.now + (dir.modTime + minBlobAge + 1) - dir.modTime > minBlobAge := by omega
      have hlisted : (dgst, dir.modTime) ∈ readDir t.disk :=
        List.mem_map.mpr ⟨⟨dgst, dir⟩, AList.mem_lookup_iff.mp hdir, rfl⟩
      rcases leads_started i layers hon' hgc (dir.modTime + minBlobAge + 1)
        with ⟨u, hlead', hscanning, hdisk, hrequests, hnow, hmaxSize⟩
      have hremoved := leads_removed i layers (readDir t.disk) u (hmaxSize ▸ hon')
        (hdisk ▸ hfrees.ready hready) (hnow ▸ hold) hlisted [] hscanning
      rcases hremoved with ⟨v, hlead'', hrequests', hnone⟩
      have hi'' : v.requests[i]? = some ⟨ref, .looping dgst .dir⟩ := by
        rw [hrequests', hrequests, hi']
      exact canBeServed_of_leads (reachesWithin_trans hlead' hlead'')
        (canBeServed_of_unknown hi'' hnone)

/-! ## Careful runs -/

/-- A request that begins to look for a blob is served, whatever is there of the blob. -/
theorem canBeServed_of_looping (hs : Inv s)
    (hi : s.requests[i]? = some ⟨ref, .looping dgst .dir⟩) : CanBeServed s i layers := by
  cases hdir : s.disk.dirs.lookup dgst with
  | none => exact canBeServed_of_unknown hi hdir
  | some dir =>
      by_cases hready : s.disk.ready.lookup dgst = none
      · rcases hs.unready dgst dir hdir hready with hon | ⟨r, hr, hworks⟩
        · exact canBeServed_of_left hon hi hready
        · exact canBeServed_of_other hi hr hworks (hs.requests r hr)
      · rcases hs.ready dgst hready with ⟨dir', hdir', hcomplete⟩
        exact canBeServed_of_ready hi hdir' hcomplete hready

/-- A request that has begun finds that the blob is ready, or begins again. -/
theorem canBeServed_of_looking (hs : Inv s) {access : Access}
    (hi : s.requests[i]? = some ⟨ref, .looping dgst access⟩) : CanBeServed s i layers := by
  by_cases hready : s.disk.ready.lookup dgst = none
  · cases access with
    | dir => exact canBeServed_of_looping hs hi
    | ready =>
        have hstep := step_go hi
        simp only [Server.go, Disk.get, hready] at hstep
        have hs' : Inv ((s.setDisk s.disk).setRequest i ref (.looping dgst .dir)) :=
          inv_setRequest (s := s.setDisk s.disk) hs hi rfl (forall_of_uses_none rfl) trivial
        exact canBeServed_of_leads (leads_step hstep trivial)
          (canBeServed_of_looping hs' (setRequest_self (s := s.setDisk s.disk) hi))
    | used => exact absurd hready (hs.inUse dgst (.inr ⟨_, List.mem_of_getElem? hi, rfl⟩))
  · rcases hs.ready dgst hready with ⟨dir, hdir, hcomplete⟩
    exact canBeServed_of_ready hi hdir hcomplete hready

theorem canBeServed_of_missed (hs : Inv s) (hi : s.requests[i]? = some ⟨ref, .missed⟩)
    {blobLayer : String} {rest : List String} : CanBeServed s i (blobLayer :: rest) := by
  have hstep : step s (.resolved i (some (blobLayer :: rest))) =
      some (s.setRequest i ref (.looping blobLayer .dir)) := by
    simp only [step, hi]
  have hs' : Inv (s.setRequest i ref (.looping blobLayer .dir)) :=
    inv_setRequest hs hi rfl nofun trivial
  exact canBeServed_of_leads (leads_step hstep fun _ => rfl)
    (canBeServed_of_looping hs' (setRequest_self hi))

theorem servesItself_of_cached (hs : Inv s) {access : Access}
    (hi : s.requests[i]? = some ⟨ref, .cached dgst access⟩) : ServesItself s i ref := by
  have hready := hs.inUse dgst (.inr ⟨_, List.mem_of_getElem? hi, rfl⟩)
  rcases hs.ready dgst hready with ⟨dir, hdir, hcomplete⟩
  rcases Option.ne_none_iff_exists'.mp hready with ⟨_, hsome⟩
  have hused : ∀ s : Server, s.requests[i]? = some ⟨ref, .cached dgst .used⟩ →
      s.disk.dirs.lookup dgst = some dir → ServesItself s i ref := by
    intro s hi hdir
    have hstep := step_go hi
    simp only [Server.go, Disk.get, hdir, Option.any_some, hcomplete] at hstep
    exact servesItself_of_step hstep ⟨0, _, rfl, setRequest_self (s := s.setDisk _) hi⟩
  have hmarker : ∀ s : Server, s.requests[i]? = some ⟨ref, .cached dgst .ready⟩ →
      s.disk.dirs.lookup dgst = some dir → s.disk.ready.lookup dgst = some () →
        ServesItself s i ref := by
    intro s hi hdir hsome
    have hstep := step_go hi
    simp only [Server.go, Disk.get, hsome] at hstep
    exact servesItself_of_step hstep (hused _ (setRequest_self (s := s.setDisk _) hi) hdir)
  cases access with
  | used => exact hused s hi hdir
  | ready => exact hmarker s hi hdir hsome
  | dir =>
      have hstep := step_go hi
      simp only [Server.go, Disk.get, hdir] at hstep
      exact servesItself_of_step hstep
        (hmarker _ (setRequest_self (s := s.setDisk _) hi) hdir hsome)

theorem canBeServed_of_cached (hs : Inv s) {access : Access}
    (hi : s.requests[i]? = some ⟨ref, .cached dgst access⟩) : CanBeServed s i layers :=
  canBeServed_of_servesItself (servesItself_of_cached hs hi)

theorem canBeServed_of_arrived (hs : Inv s) (hi : s.requests[i]? = some ⟨ref, .arrived⟩)
    {blobLayer : String} {rest : List String} : CanBeServed s i (blobLayer :: rest) := by
  have hstep := step_go hi
  have hcareful : Careful s (.go i) := by
    intro r hr
    rw [hi, Option.mem_some_iff] at hr
    rw [← hr]
    trivial
  have hs' : Inv (s.setRequest i ref (if (s.refcache.lookup ref).getD "" = "" then .missed
      else .cached ((s.refcache.lookup ref).getD "") .dir)) := inv_go hs hi hcareful rfl
  refine canBeServed_of_leads (leads_step hstep trivial) ?_
  by_cases hknown : (s.refcache.lookup ref).getD "" = ""
  · rw [if_pos hknown] at hs' ⊢
    exact canBeServed_of_missed hs' (setRequest_self hi)
  · rw [if_neg hknown] at hs' ⊢
    exact canBeServed_of_cached hs' (setRequest_self hi)

/-- Every request that has no answer can be served. -/
theorem canBeServed_of_inv (hs : Inv s) (hi : s.requests[i]? = some ⟨ref, old⟩)
    (hwaits : ∀ a, old ≠ .answered a) {blobLayer : String} {rest : List String} :
    CanBeServed s i (blobLayer :: rest) := by
  have hholds : old.Holds s.disk.dirs := hs.requests _ (List.mem_of_getElem? hi)
  cases old with
  | arrived => exact canBeServed_of_arrived hs hi
  | cached dgst access => exact canBeServed_of_cached hs hi
  | missed => exact canBeServed_of_missed hs hi
  | looping dgst access => exact canBeServed_of_looking hs hi
  | unknown dgst => exact canBeServed_of_fetching hi hholds
  | opened dgst => exact canBeServed_of_opened hi hholds
  | absent dgst => exact canBeServed_of_absent hi hholds
  | extracting dgst id => exact canBeServed_of_works hi rfl hholds
  | writing dgst id size m => exact canBeServed_of_works hi rfl hholds
  | found dgst complete =>
      rw [show complete = true from hholds] at hi
      exact canBeServed_of_servesItself (servesItself_of_found hi)
  | answered a => exact absurd rfl (hwaits a)

/-- Whatever the invariant holds of recovers. The cases are those of a blob: it is ready,
    somebody works on it, it is unknown, or it was left behind. -/
theorem recovers_of_inv (hs : Inv s) : Recovers s where
  answers r hr a ha := by
    have hholds := hs.requests r hr
    rw [ha] at hholds
    exact hholds
  waiting i r hi hwaits blobLayer rest := canBeServed_of_inv hs hi hwaits
  later ref blobLayer rest := by
    have hs' : Inv { s with requests := s.requests ++ [⟨ref, .arrived⟩] } :=
      inv_step (a := .arrive ref) hs trivial rfl
    have hnew : (s.requests ++ [⟨ref, .arrived⟩])[s.requests.length]? =
        some (⟨ref, .arrived⟩ : Request) := List.getElem?_concat_length
    exact ⟨_, rfl, canBeServed_of_arrived hs' hnew⟩
  shared i ref dgst access hi hready := by
    rcases hs.ready dgst hready with ⟨dir, hdir, hcomplete⟩
    exact servesItself_of_ready hi hdir hcomplete hready

/-- A download fails, and the next request downloads the image once what was left behind is
removed. -/
def failedRun : List Action :=
  [.arrive "ide:1", .go 0, .resolved 0 (some ["d"]), .go 0, .fetched 0 true, .go 0, .go 0,
    .untarred 0 none, .arrive "ide:1", .go 1, .resolved 1 (some ["d"]), .go 1, .tick 1300,
    .collect false, .collect false, .collect false, .go 1, .go 1, .fetched 1 true, .go 1, .go 1,
    .untarred 1 (some 10)]

/-- A reference has a blob that was removed. Some requests were answered before, and those that
have arrived since are all for this reference. -/
structure Lost (n : Nat) (ref dgst : String) (s : Server) : Prop where
  remembered : s.refcache.lookup ref = some dgst
  named : dgst ≠ ""
  removed : s.disk.dirs.lookup dgst = none
  length : n ≤ s.requests.length
  before : ∀ i r, i < n → s.requests[i]? = some r → ∃ a, r.phase = .answered a
  since : ∀ i r, n ≤ i → s.requests[i]? = some r → r.ref = ref ∧
    (r.phase = .arrived ∨ r.phase = .cached dgst .dir ∨ r.phase = .answered .unready)

variable {n : Nat}

/-- What a request may be doing. -/
theorem phase_of_lost (hs : Lost n ref dgst s) (hi : s.requests[i]? = some r) :
    r.phase = .arrived ∧ r.ref = ref ∧ n ≤ i ∨ r.phase = .cached dgst .dir ∧ r.ref = ref ∧ n ≤ i ∨
      ∃ a, r.phase = .answered a := by
  by_cases hlt : i < n
  · exact .inr (.inr (hs.before i r hlt hi))
  · have hle := Nat.le_of_not_lt hlt
    rcases hs.since i r hle hi with ⟨href, harrived | hcached | hunready⟩
    · exact .inl ⟨harrived, href, hle⟩
    · exact .inr (.inl ⟨hcached, href, hle⟩)
    · exact .inr (.inr ⟨_, hunready⟩)

/-- A request for a lost reference goes on without being served. -/
theorem lost_setRequest (hs : Lost n ref dgst s) (hle : n ≤ i)
    (hnew : new = .cached dgst .dir ∨ new = .answered .unready) :
    Lost n ref dgst (s.setRequest i ref new) where
  remembered := hs.remembered
  named := hs.named
  removed := hs.removed
  length := by
    rw [Server.setRequest, List.length_set]
    exact hs.length
  before j r hlt hj := by
    have hne : j ≠ i := by omega
    rw [setRequest_other hne] at hj
    exact hs.before j r hlt hj
  since j r hle' hj := by
    rw [Server.setRequest, List.getElem?_set] at hj
    split at hj
    · split at hj
      · rw [← Option.some.inj hj]
        exact ⟨rfl, .inr hnew⟩
      · cases hj
    · exact hs.since j r hle' hj

/-- A reference that is lost stays lost, as nothing is removed from what is remembered. -/
theorem lost_step {a : Action} (hs : Lost n ref dgst s)
    (ha : ∀ ref', a = .arrive ref' → ref' = ref) (h : step s a = some t) : Lost n ref dgst t := by
  unfold step at h
  cases a with
  | arrive ref' =>
      rw [← Option.some.inj h, ha ref' rfl]
      refine ⟨hs.remembered, hs.named, hs.removed, ?_, fun j r hlt hj => ?_, fun j r hle hj => ?_⟩
      · rw [List.length_append]
        -- The requests that were there keep their places.
        exact Nat.le_add_right_of_le hs.length
      · have hlength := hs.length
        rw [List.getElem?_append_left (by omega)] at hj
        exact hs.before j r hlt hj
      · by_cases hlt : j < s.requests.length
        · rw [List.getElem?_append_left hlt] at hj
          exact hs.since j r hle hj
        · rw [List.getElem?_append_right (Nat.le_of_not_lt hlt), List.getElem?_singleton] at hj
          split at hj
          · rw [← Option.some.inj hj]
            exact ⟨rfl, .inl rfl⟩
          · cases hj
  | go i =>
      dsimp only at h
      split at h
      · next r hi =>
          -- A request has arrived, or looks for the blob, or is answered.
          rcases phase_of_lost hs hi with ⟨hphase, href, hle⟩ | ⟨hphase, href, hle⟩ | ⟨a, hphase⟩
          · rw [hphase, href] at h
            simp only [Server.go, hs.remembered, Option.getD_some, if_neg hs.named] at h
            rw [← Option.some.inj h]
            exact lost_setRequest hs hle (.inl rfl)
          · rw [hphase, href] at h
            -- The directory is not there, so the request is told that the blob is not ready.
            simp only [Server.go, Disk.get, hs.removed] at h
            rw [← Option.some.inj h]
            exact lost_setRequest hs hle (.inr rfl)
          · rw [hphase] at h
            cases h
      · cases h
  | resolved i layers =>
      dsimp only at h
      split at h
      · -- No request of this kind resolves a reference, fetches a layer or extracts one.
        next hi => rcases phase_of_lost hs hi with ⟨hc, _⟩ | ⟨hc, _⟩ | ⟨_, hc⟩ <;> cases hc
      · cases h
  | fetched i ok =>
      dsimp only at h
      split at h
      · next hi => rcases phase_of_lost hs hi with ⟨hc, _⟩ | ⟨hc, _⟩ | ⟨_, hc⟩ <;> cases hc
      · cases h
  | untarred i size =>
      dsimp only at h
      split at h
      · next hi => rcases phase_of_lost hs hi with ⟨hc, _⟩ | ⟨hc, _⟩ | ⟨_, hc⟩ <;> cases hc
      · cases h
  | touch name =>
      dsimp only at h
      split at h
      · split at h
        · next hany =>
            -- nobody extracts anything
            rcases List.any_eq_true.mp hany with ⟨r, hr, hextracts⟩
            rcases List.getElem?_of_mem hr with ⟨i, hi⟩
            rcases phase_of_lost hs hi with ⟨hc, _⟩ | ⟨hc, _⟩ | ⟨_, hc⟩
            · rw [hc] at hextracts
              cases hextracts
            · rw [hc] at hextracts
              cases hextracts
            · rw [hc] at hextracts
              cases hextracts
        · cases h
      · cases h
  | collect fails =>
      dsimp only at h
      split at h
      · -- A collection may remove directories, but it makes none.
        have hdirs : (collect s.maxSize s.now fails s.disk s.gc).2.dirs.lookup dgst = none := by
          rcases effect_of_collect s fails with hsame | ⟨_, ⟨name, m, hm, _⟩ | ⟨name, hdir, _⟩⟩
          · rw [hsame, hs.removed]
          · rw [hm]
            cases m <;> exact hs.removed
          · rw [hdir, Disk.removeDir, Map.lookup_erase_eq_ite, hs.removed, ite_self]
        rw [← Option.some.inj h]
        exact ⟨hs.remembered, hs.named, hdirs, hs.length, hs.before, hs.since⟩
      · cases h
  | tick n =>
      rw [← Option.some.inj h]
      exact ⟨hs.remembered, hs.named, hs.removed, hs.length, hs.before, hs.since⟩

/-- Where all requests are for a lost reference, all of them fail. -/
theorem lost_forever (hs : Lost n ref dgst s)
    (h : ReachesWithin step (fun _ a => ∀ ref', a = .arrive ref' → ref' = ref) s t) :
    Lost n ref dgst t := by
  refine invariant_of_reachesWithin ?_ h hs
  intro s' s'' a _ hs' ha hstep
  exact lost_step hs' ha hstep

/-! ### A blob that is evicted -/

/-- An image is served, and then its blob is removed. -/
def evictedRun : List Action :=
  [.arrive "ide:1", .go 0, .resolved 0 (some ["d"]), .go 0, .fetched 0 true, .go 0, .go 0,
    .untarred 0 (some 10), .go 0, .go 0, .go 0, .go 0, .go 0, .go 0, .go 0] ++
    List.replicate 11 (.collect false)

/-- There is one request, and it was served. -/
def servedAlone (s : Server) : Bool :=
  match s.requests with
  | [⟨_, .answered (.served true)⟩] => true
  | _ => false

/-- The reference of a blob that is evicted is lost. -/
theorem lost_evictedRun :
    ∃ s, runActions step evictedRun (newServer 5) = some s ∧ Lost 1 "ide:1" "d" s := by
  refine exists_run_of_any
    (fun s => s.refcache.lookup "ide:1" = some "d" && (s.disk.dirs.lookup "d").isNone &&
      servedAlone s) (by decide) fun s _ hs => ?_
  simp only [Bool.and_eq_true, decide_eq_true_eq, Option.isNone_iff_eq_none] at hs
  rcases hs with ⟨⟨hcached, hnone⟩, hrequests⟩
  unfold servedAlone at hrequests
  split at hrequests
  · next ref hone =>
      refine ⟨hcached, by decide, hnone, ?_, fun i r hlt hi => ?_, fun i r hle hi => ?_⟩
      · rw [hone]
        exact Nat.le_refl 1
      · rw [hone, Nat.lt_one_iff.mp hlt] at hi
        exact ⟨.served true, by rw [← Option.some.inj hi]⟩
      · rw [hone, List.getElem?_eq_none hle] at hi
        cases hi
  · cases hrequests

/-- No request for it is served anymore, however many arrive. -/
theorem unready_forever :
    ∃ s, runActions step evictedRun (newServer 5) = some s ∧
      ∀ t, ReachesWithin step (fun _ a => ∀ ref, a = .arrive ref → ref = "ide:1") s t →
        ∀ i r a, 1 ≤ i → t.requests[i]? = some r → r.phase = .answered a → a = .unready := by
  rcases lost_evictedRun with ⟨s, hrun, hlost⟩
  refine ⟨s, hrun, fun t ht i r a hle hi ha => ?_⟩
  rcases ((lost_forever hlost ht).since i r hle hi).2 with harrived | hcached | hunready
  · rw [harrived] at ha
    cases ha
  · rw [hcached] at ha
    cases ha
  · exact Phase.answered.inj (ha.symm.trans hunready)

/-- A request was answered with an error of the server. -/
def answersUnready (s : Server) : Bool :=
  s.requests.any fun r => match r.phase with
    | .answered .unready => true
    | _ => false

end Blobserve

end Nxpod
