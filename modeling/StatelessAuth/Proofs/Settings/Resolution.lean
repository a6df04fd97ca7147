/-
Which settings a source holds, and what is reported if it holds none
(`resolution_exact`).

The settings have what won for them, or their defaults. What is reported
goes through the settings in the order of their declaration, and none of
them hides what is wrong with another (`faults_fields`); after them come
the arguments that are no settings. An argument is a setting if its name
is one in any case, so that one spelt in small letters is no stranger
(`small_letters_accepted`).
-/
import StatelessAuth.Proofs.Settings.Sources

namespace StatelessAuth

open Text

namespace Settings

variable {source other : SettingsSource} {settings : Settings}
  {faults : List Fault}

/-- The settings in the order of their declaration. -/
def declarations : List Declaration :=
  [⟨"PROJECT_NAME", .text, false⟩, ⟨"API_V1_STR", .text, false⟩,
   ⟨"PWD_KEY", .key, true⟩, ⟨"TOKEN_KEY", .key, true⟩,
   ⟨"TOKEN_DURATION_SEC", .number, false⟩, ⟨"AUTH_COOKIE_NAME", .text, false⟩,
   ⟨"LOG_LEVEL", .text, false⟩]

/-- Some setting has the name, in whatever case. -/
def IsKnown (name : String) : Prop :=
  ∃ declared ∈ declarations, sameName name declared.name = true

instance (name : String) : Decidable (IsKnown name) :=
  inferInstanceAs (Decidable
    (∃ declared ∈ declarations, sameName name declared.name = true))

/-- The arguments that are no settings. -/
def strangers (source : SettingsSource) : List (String × Value) :=
  source.arguments.filter fun entry => ¬ IsKnown entry.1

/-- The report of an argument that is no setting. -/
def strangerFault (entry : String × Value) : Fault :=
  ⟨.extraForbidden, [entry.1], entry.2⟩

/-- Each setting has the value that it takes. -/
structure Resolves (source : SettingsSource) (settings : Settings) : Prop where
  projectName : ∃ name, settings.projectName = .text name
    ∧ source.Takes "PROJECT_NAME" Rule.text (some "WebToken Auth") name
  apiRoot : ∃ path, settings.apiRoot = .text path
    ∧ source.Takes "API_V1_STR" Rule.text (some "/api/v1") path
  passwordKey : source.Takes "PWD_KEY" Key.rule none settings.passwordKey
  tokenKey : source.Takes "TOKEN_KEY" Key.rule none settings.tokenKey
  tokenDuration : ∃ seconds, settings.tokenDuration = .real seconds
    ∧ source.Takes "TOKEN_DURATION_SEC" Rule.number
      (some defaultDuration) seconds
  cookieName : ∃ name, settings.cookieName = .text name
    ∧ source.Takes "AUTH_COOKIE_NAME" Rule.text (some "auth-token") name
  logLevel : ∃ level, settings.logLevel = .text level
    ∧ source.Takes "LOG_LEVEL" Rule.text (some "INFO") level

/-- The same wins in both for each setting, and they have the same strangers. -/
structure Agree (source other : SettingsSource) : Prop where
  wins : ∀ declared ∈ declarations, ∀ given,
    source.Wins declared.name given ↔ other.Wins declared.name given
  strangers : strangers source = strangers other

/-- A variable that may be looked at: that of a setting that no argument has. -/
def IsAskedFor (source : SettingsSource) (entry : String × String) : Prop :=
  ∃ declared ∈ declarations, source.Lacks declared.name
    ∧ sameName entry.1 ("SERVICE_" ++ declared.name) = true

instance (source : SettingsSource) (entry : String × String) :
    Decidable (IsAskedFor source entry) :=
  inferInstanceAs (Decidable
    (∃ declared ∈ declarations, source.Lacks declared.name
      ∧ sameName entry.1 ("SERVICE_" ++ declared.name) = true))

-- -------------------------------------------------------------- values

/-- All seven settings fit exactly if each has the value that it
takes. -/
theorem fields_eq_valid_iff_resolves (h : source.IsDistinct) :
    fields source = .valid settings ↔ Resolves source settings := by
  simp only [fields_eq_valid_iff, textSetting,
    SettingsSource.map_setting_eq_valid_iff h,
    SettingsSource.required_eq_valid_iff_takes h]
  constructor
  · rintro ⟨hproject, hpath, hpassword, htoken, hduration, hcookie, hlevel⟩
    exact ⟨hproject, hpath, hpassword, htoken, hduration, hcookie, hlevel⟩
  · rintro ⟨hproject, hpath, hpassword, htoken, hduration, hcookie, hlevel⟩
    exact ⟨hproject, hpath, hpassword, htoken, hduration, hcookie, hlevel⟩

-- -------------------------------------------------------------- faults

/-- No setting hides what is wrong with another. -/
theorem faults_fields (source : SettingsSource) :
    (fields source).faults
      = declarations.flatMap fun declared => declared.faults source := by
  unfold fields
  simp only [textSetting, Validated.faults_andThen, Validated.faults_map,
    SettingsSource.faults_setting .text fun _ => rfl,
    SettingsSource.faults_setting .number fun _ => rfl,
    SettingsSource.faults_required .key fun _ => rfl]
  simp only [declarations, List.flatMap_cons, List.flatMap_nil, List.append_nil,
    List.append_assoc]

theorem isFounded_textSetting (source : SettingsSource)
    (name default : String) :
    (textSetting source name default).IsFounded :=
  (SettingsSource.isFounded_setting Rule.isWhole_text source name default).map _

/-- Where settings do not fit there is something to report. -/
theorem isFounded_fields (source : SettingsSource) :
    (fields source).IsFounded := by
  unfold fields
  have htext := isFounded_textSetting source
  have hkey := SettingsSource.isFounded_required Key.isWhole_rule source
  have hnumber := SettingsSource.isFounded_setting Rule.isWhole_number source
  exact (((((((htext _ _).map mk).andThen (htext _ _)).andThen (hkey _)).andThen
    (hkey _)).andThen ((hnumber _ _).map _)).andThen (htext _ _)).andThen
    (htext _ _)

theorem any_names_iff {name : String} :
    names.any (sameName name) = true ↔ IsKnown name := by
  simp [names, IsKnown, declarations]

/-- What is reported of arguments is reported of the strangers. -/
theorem unknown_eq (source : SettingsSource) :
    unknown source = (strangers source).map strangerFault := by
  unfold unknown strangers strangerFault
  congr 1
  apply List.filter_congr
  intro entry _
  by_cases hknown : IsKnown entry.1
  · simp [hknown, any_names_iff.2 hknown]
  · have hany := mt any_names_iff.1 hknown
    simp [hknown, Bool.eq_false_iff.2 hany]

theorem strangers_eq_nil_iff :
    strangers source = [] ↔ ∀ entry ∈ source.arguments, IsKnown entry.1 := by
  simp [strangers, List.filter_eq_nil_iff]

/-- Settings do not fit if there is something to report, and all of it
is reported. -/
theorem load_eq_invalid_iff :
    load source = .invalid faults
      ↔ faults ≠ []
        ∧ faults = (fields source).faults
            ++ (strangers source).map strangerFault := by
  rw [← unknown_eq]
  unfold load
  cases hfields : fields source with
  | valid checked =>
      cases unknown source with
      | nil => simp [Validated.faults]
      | cons fault rest =>
          simp only [Validated.invalid.injEq]
          constructor
          · rintro rfl
            exact ⟨List.cons_ne_nil _ _, rfl⟩
          · rintro ⟨-, rfl⟩
            rfl
  | invalid found =>
      -- settings that do not fit have a fault of their own, so that
      -- there is something to report without strangers
      have hne : found ≠ [] := by
        rintro rfl
        exact isFounded_fields source hfields
      simp only [Validated.invalid.injEq]
      constructor
      · rintro rfl
        exact ⟨List.append_ne_nil_of_left_ne_nil hne _, rfl⟩
      · rintro ⟨-, rfl⟩
        rfl

/-- Settings are loaded exactly if each takes a value and no argument is
a stranger. -/
theorem load_eq_valid_iff_resolves (h : source.IsDistinct) :
    load source = .valid settings
      ↔ Resolves source settings
        ∧ ∀ entry ∈ source.arguments, IsKnown entry.1 := by
  rw [load_eq_valid_iff, fields_eq_valid_iff_resolves h, unknown_eq,
    List.map_eq_nil_iff, strangers_eq_nil_iff]

/-- What is reported is what is wrong with the settings, and then the
strangers. -/
theorem load_eq_invalid_iff_judged (h : source.IsDistinct) :
    load source = .invalid faults
      ↔ faults ≠ [] ∧ ∃ own, Judged source declarations own
        ∧ faults = own ++ (strangers source).map strangerFault := by
  rw [load_eq_invalid_iff, faults_fields]
  simp only [judged_iff h, exists_eq_left]

/-- Whether settings can be loaded is told without their values. -/
theorem exists_load_iff (h : source.IsDistinct) :
    (∃ settings, load source = .valid settings)
      ↔ (∀ declared ∈ declarations, ∀ fault, ¬ declared.Fails source fault)
        ∧ ∀ entry ∈ source.arguments, IsKnown entry.1 := by
  have hfields : (∃ settings, fields source = .valid settings)
      ↔ ∀ declared ∈ declarations, ∀ fault, ¬ declared.Fails source fault := by
    have hnil : (fields source).faults = []
        ↔ ∀ declared ∈ declarations, ∀ fault,
          ¬ declared.Fails source fault := by
      rw [faults_fields, List.flatMap_eq_nil_iff]
      simp only [Declaration.faults_eq_nil_iff h]
    rw [← hnil]
    constructor
    · rintro ⟨settings, hvalid⟩
      rw [hvalid]
      rfl
    · exact (isFounded_fields source).exists_valid
  rw [← hfields, ← strangers_eq_nil_iff]
  simp only [load_eq_valid_iff, unknown_eq, List.map_eq_nil_iff,
    exists_and_right]

-- ------------------------------------------------- what has no effect

/-- The values are told by what wins. -/
theorem Resolves.of_wins (h : Resolves source settings)
    (hwins : ∀ declared ∈ declarations, ∀ given,
      source.Wins declared.name given ↔ other.Wins declared.name given) :
    Resolves other settings := by
  simp only [declarations, List.forall_mem_cons] at hwins
  obtain ⟨hproject, hpath, hpassword, htoken, hduration, hcookie, hlevel, -⟩ :=
    hwins
  obtain ⟨⟨project, hproject', htakesProject⟩, ⟨path, hpath', htakesPath⟩,
    htakesPassword, htakesToken, ⟨seconds, hseconds, htakesDuration⟩,
    ⟨cookie, hcookie', htakesCookie⟩, ⟨level, hlevel', htakesLevel⟩⟩ := h
  exact {
    projectName := ⟨project, hproject', htakesProject.of_wins hproject⟩
    apiRoot := ⟨path, hpath', htakesPath.of_wins hpath⟩
    passwordKey := htakesPassword.of_wins hpassword
    tokenKey := htakesToken.of_wins htoken
    tokenDuration := ⟨seconds, hseconds, htakesDuration.of_wins hduration⟩
    cookieName := ⟨cookie, hcookie', htakesCookie.of_wins hcookie⟩
    logLevel := ⟨level, hlevel', htakesLevel.of_wins hlevel⟩ }

theorem Agree.symm (h : Agree source other) : Agree other source :=
  ⟨fun declared hmem given => (h.wins declared hmem given).symm,
    h.strangers.symm⟩

/-- A variable that is not asked for has no effect on what wins. -/
theorem wins_of_askedFor {environment : Environment} {declared : Declaration}
    {given : Option Value} (hmem : declared ∈ declarations)
    (h : ∀ entry, IsAskedFor source entry →
      (entry ∈ source.environment.entries ↔ entry ∈ environment.entries))
    (hwins : source.Wins declared.name given) :
    SettingsSource.Wins { source with environment } declared.name given := by
  cases hwins with
  | exact hentry => exact .exact hentry
  | otherCase hexact hsplit hsame hfirst =>
      exact .otherCase hexact hsplit hsame hfirst
  | @ofEnvironment name text hlacks hentry hsame =>
      have hasked : IsAskedFor source (name, text) :=
        ⟨declared, hmem, hlacks, hsame⟩
      exact .ofEnvironment hlacks ((h _ hasked).1 hentry) hsame
  | nothing hlacks hunset =>
      refine .nothing hlacks fun entry hentry hsame => ?_
      have hasked : IsAskedFor source entry := ⟨declared, hmem, hlacks, hsame⟩
      exact hunset entry ((h entry hasked).2 hentry) hsame

/-- Nothing is looked at but what is given for the settings, and the
arguments. -/
theorem load_congr
    (hgiven : ∀ declared ∈ declarations,
      source.given? declared.name = other.given? declared.name)
    (harguments : source.arguments = other.arguments) :
    load source = load other := by
  simp only [declarations, List.forall_mem_cons] at hgiven
  obtain ⟨hproject, hpath, hpassword, htoken, hduration, hcookie, hlevel, -⟩ :=
    hgiven
  unfold load fields unknown textSetting SettingsSource.setting
    SettingsSource.required
  rw [hproject, hpath, hpassword, htoken, hduration, hcookie,
    hlevel, harguments]

-- -------------------------------------------------------------- result

/-- Settings can be loaded exactly if nothing is wrong with any of them
and each argument is a setting, and each of them then has the value that
won for it, or its default. Otherwise what is wrong with the settings is
reported in the order of their declaration, and then each argument that
is no setting. This depends on nothing but what wins for each setting
and on those arguments. In particular a variable has no effect if it is
that of no setting, or of one that an argument has. -/
theorem resolution_exact (source : SettingsSource) (h : source.IsDistinct) :
    (∀ settings, load source = .valid settings
        ↔ Resolves source settings
          ∧ ∀ entry ∈ source.arguments, IsKnown entry.1)
      ∧ (∀ faults, load source = .invalid faults
        ↔ faults ≠ [] ∧ ∃ own, Judged source declarations own
          ∧ faults = own ++ (strangers source).map strangerFault)
      ∧ ((∃ settings, load source = .valid settings)
        ↔ (∀ declared ∈ declarations, ∀ fault, ¬ declared.Fails source fault)
          ∧ ∀ entry ∈ source.arguments, IsKnown entry.1)
      ∧ (∀ other : SettingsSource, other.IsDistinct → Agree source other →
          (∀ settings, load source = .valid settings
            ↔ load other = .valid settings)
            ∧ ∀ faults, load source = .invalid faults →
              ∃ found, load other = .invalid found
                ∧ found.map Fault.report = faults.map Fault.report)
      ∧ ∀ environment : Environment,
          SettingsSource.IsDistinct { source with environment } →
          (∀ entry, IsAskedFor source entry →
            (entry ∈ source.environment.entries
              ↔ entry ∈ environment.entries)) →
          load { source with environment } = load source := by
  refine ⟨fun _ => load_eq_valid_iff_resolves h,
    fun _ => load_eq_invalid_iff_judged h, exists_load_iff h, ?agree,
    ?environment⟩
  case agree =>
    intro other hother hagree
    refine ⟨fun settings => ?_, fun faults hfaults => ?_⟩
    · rw [load_eq_valid_iff_resolves h, load_eq_valid_iff_resolves hother,
        ← strangers_eq_nil_iff, ← strangers_eq_nil_iff, hagree.strangers]
      exact and_congr_left'
        ⟨(·.of_wins hagree.wins), (·.of_wins hagree.symm.wins)⟩
    · obtain ⟨hne, own, hjudged, rfl⟩ :=
        (load_eq_invalid_iff_judged h).1 hfaults
      obtain ⟨found, hfound, hreport⟩ := hjudged.of_wins hagree.wins
      -- the reports are the same, and so one of them is empty only if
      -- the other is
      have hsame : (found ++ (strangers other).map strangerFault).map
          Fault.report
          = (own ++ (strangers source).map strangerFault).map Fault.report := by
        rw [List.map_append, List.map_append, hreport, hagree.strangers]
      refine ⟨_, (load_eq_invalid_iff_judged hother).2
        ⟨fun hnil => ?_, found, hfound, rfl⟩, hsame⟩
      rw [hnil] at hsame
      exact hne (List.map_eq_nil_iff.1 hsame.symm)
  case environment =>
    intro environment hother hentries
    refine load_congr (fun declared hmem => ?_) rfl
    exact SettingsSource.given?_of_wins hother
      (wins_of_askedFor hmem hentries
        (SettingsSource.wins_given? source declared.name))

/-- A level that is no text beside one in small letters, a key in small
letters beside a variable, and an argument that is no setting. -/
def mixed : SettingsSource :=
  ⟨[("LOG_LEVEL", .integer 5), ("log_level", .text "DEBUG"),
    ("pwd_key", .bytes [112]), ("zz", .null)],
   ⟨[("SERVICE_PWD_KEY", "?"), ("service_api_v1_str", "/v2"), ("OTHER", "x")]⟩,
   by decide⟩

/-- The same without what has no effect. -/
def mixedBare : SettingsSource :=
  ⟨[("LOG_LEVEL", .integer 5), ("pwd_key", .bytes [112]), ("zz", .null)],
   ⟨[("service_api_v1_str", "/v2")]⟩, by decide⟩

theorem isDistinct_mixed : mixed.IsDistinct := ⟨by decide, by decide⟩

theorem isDistinct_mixedBare : mixedBare.IsDistinct := ⟨by decide, by decide⟩

/-- What was left out had lost to what is there, or belongs to no
setting. -/
theorem agree_mixed : Agree mixed mixedBare := by
  refine ⟨fun declared hmem given => ?_, rfl⟩
  have hgiven : ∀ declared ∈ declarations,
      mixed.given? declared.name = mixedBare.given? declared.name := by
    simp only [declarations, List.forall_mem_cons]
    exact ⟨rfl, rfl, rfl, rfl, rfl, rfl, rfl, List.forall_mem_nil _⟩
  rw [SettingsSource.wins_iff isDistinct_mixed,
    SettingsSource.wins_iff isDistinct_mixedBare, hgiven declared hmem]

/-- One key is missing, the level that is looked at is no text, and one
argument is no setting; that is all that is wrong, with what has no
effect or without it. -/
theorem resolution_exact_of_mixed :
    mixed.IsDistinct
      ∧ load mixed = .invalid
          [⟨.missing, ["TOKEN_KEY"], .record mixed.arguments⟩,
            ⟨.stringType, ["LOG_LEVEL"], .integer 5⟩,
            ⟨.extraForbidden, ["zz"], .null⟩]
      ∧ (∃ found, load mixedBare = .invalid found
          ∧ found.map Fault.report
            = [(.missing, ["TOKEN_KEY"]), (.stringType, ["LOG_LEVEL"]),
                (.extraForbidden, ["zz"])])
      ∧ load { mixed with environment := mixedBare.environment }
        = load mixed := by
  obtain ⟨-, hinvalid, -, hagree, henvironment⟩ :=
    resolution_exact mixed isDistinct_mixed
  have hload := (hinvalid _).2
    ⟨List.cons_ne_nil _ _, _, (judged_iff isDistinct_mixed).2 rfl, rfl⟩
  refine ⟨isDistinct_mixed, hload, ?bare, ?environment⟩
  case bare =>
    exact (hagree mixedBare isDistinct_mixedBare agree_mixed).2 _ hload
  case environment =>
    refine henvironment mixedBare.environment ⟨by decide, by decide⟩
      fun entry hasked => ⟨?_, ?_⟩
    · intro hmem
      exact (by decide :
        ∀ entry ∈ mixed.environment.entries, IsAskedFor mixed entry →
        entry ∈ mixedBare.environment.entries) entry hmem hasked
    · intro hmem
      exact (by decide : ∀ entry ∈ mixedBare.environment.entries,
        entry ∈ mixed.environment.entries) entry hmem

/-- An argument in small letters, which is the exact name of no setting,
is taken for the setting. -/
theorem small_letters_accepted :
    ¬ ∀ source settings, source.IsDistinct → load source = .valid settings →
      ∀ entry ∈ source.arguments, entry.1 ∈ names := by
  intro h
  have hnone := h ⟨[("PWD_KEY", .bytes [112]), ("TOKEN_KEY", .bytes [116]),
    ("project_name", .text "low")], .empty, by decide⟩ _
    ⟨by decide, List.Pairwise.nil⟩ rfl
  exact absurd (hnone ("project_name", .text "low")
    (.tail _ (.tail _ (.head _)))) (by decide)

end Settings

end StatelessAuth
