import FederatedLogin.Proofs.Settings.Fitting
import FederatedLogin.Settings.Basic

/-!
# Settings are what they are read off

Every value of the shape of a section stands for one, which holds at each leaf what the value says
there (`Faithful`). This is shown section by section, and from that for all settings
(`Settings.faithful`).
-/

namespace FederatedLogin

open Json Settings

/-- A member of an object is found by its name. -/
theorem Json.Value.member?_object (name : String) (members : List (String × Value)) :
    (Value.object members).member? name = members.lookup name := rfl

/-- A value that is there is found under its own name. -/
theorem Json.Value.lookup_present (name key : String) (o : Option Value) :
    (Value.present name o).lookup key = if key = name then o else none := by
  cases o with
  | none => simp [Value.present]
  | some w => simp [Value.present, lookup_cons_eq_ite]

/-- An optional string is itself at the end of a path. -/
theorem Json.Value.at?_ofOption (s : Option String) :
    (Value.ofOption s).at? [] = (s.map Value.string).bind (Value.at? []) := by
  cases s <;> rfl

variable {v : Value}

/-- Every value of the shape stands for something, which holds at each leaf what the value says. -/
def Faithful {α : Type} (shape : Shape) (ofValue? : Value → Option α) (toValue : α → Value) :
    Prop :=
  ∀ v, shape.holds v = true →
    ∃ a, ofValue? v = some a ∧ ∀ leaf ∈ shape.leaves, (toValue a).at? leaf.path = v.at? leaf.path

/-! ## Sections -/

/-- Each of the names is that of a log format. -/
theorem Settings.LogFormat.exists_of_mem {name : String} (mem : name ∈ ["pretty", "json"]) :
    ∃ format, LogFormat.ofName? name = some format ∧ format.name = name := by
  simp only [List.mem_cons, List.not_mem_nil, or_false] at mem
  rcases mem with rfl | rfl
  · exact ⟨.pretty, rfl, rfl⟩
  · exact ⟨.json, rfl, rfl⟩

/-- The section of the server holds what its entries say. -/
theorem Settings.Server.faithful (build : Build) :
    Faithful (Server.shape build) Server.ofValue? Server.toValue := by
  intro v holds
  have fields := fieldsHold_iff.1 holds
  simp only [List.forall_mem_cons, List.headD_cons, holds_text_iff, holds_unsigned_iff,
    holds_choice_iff] at fields
  obtain ⟨⟨_, at_host, host, rfl⟩, ⟨_, at_port, port, rfl, -⟩, ⟨_, at_timeout, timeout, rfl, -⟩,
    ⟨_, at_format, _, rfl, choice⟩, -⟩ := fields
  obtain ⟨format, named, rfl⟩ := LogFormat.exists_of_mem choice
  refine ⟨⟨host, port, timeout, format⟩, ?_, ?_⟩
  · simp [ofValue?, at_host, at_port, at_timeout, at_format, Value.string?, Value.natural?, named]
  · simp [Server.shape, Shape.leaves, fieldLeaves, Shape.unsigned, Value.at?, toValue,
      Value.member?_object, lookup_cons_eq_ite, at_host, at_port, at_timeout, at_format]

/-- The section of the database holds what its entries say. -/
theorem Settings.Database.faithful :
    Faithful Database.shape Database.ofValue? Database.toValue := by
  intro v holds
  have fields := fieldsHold_iff.1 holds
  simp only [List.forall_mem_cons, List.headD_cons, holds_text_iff, holds_unsigned_iff,
    holds_flag_iff] at fields
  obtain ⟨⟨_, at_url, url, rfl⟩, ⟨_, at_most, most, rfl, -⟩, ⟨_, at_least, least, rfl, -⟩,
    ⟨_, at_migrations, migrations, rfl⟩, -⟩ := fields
  refine ⟨⟨url, most, least, migrations⟩, ?_, ?_⟩
  · simp [ofValue?, at_url, at_most, at_least, at_migrations, Value.string?, Value.natural?,
      Value.bool?]
  · simp [Database.shape, Shape.leaves, fieldLeaves, Shape.unsigned, Value.at?, toValue,
      Value.member?_object, lookup_cons_eq_ite, at_url, at_most, at_least, at_migrations]

/-- The section of the session server holds what its entries say. -/
theorem Settings.Redis.faithful : Faithful Redis.shape Redis.ofValue? Redis.toValue := by
  intro v holds
  have fields := fieldsHold_iff.1 holds
  simp only [List.forall_mem_cons, List.headD_cons, holds_text_iff] at fields
  obtain ⟨⟨_, at_url, url, rfl⟩, -⟩ := fields
  refine ⟨⟨url⟩, ?_, ?_⟩
  · simp [ofValue?, at_url, Value.string?]
  · simp [Redis.shape, Shape.leaves, fieldLeaves, Value.at?, toValue, Value.member?_object, at_url]

/-- Each of the names is that of a policy. -/
theorem Session.SameSite.exists_of_mem {name : String} (mem : name ∈ ["Strict", "Lax", "None"]) :
    ∃ policy, SameSite.ofName? name = some policy ∧ policy.name = name := by
  simp only [List.mem_cons, List.not_mem_nil, or_false] at mem
  rcases mem with rfl | rfl | rfl
  · exact ⟨.strict, rfl, rfl⟩
  · exact ⟨.lax, rfl, rfl⟩
  · exact ⟨.none, rfl, rfl⟩

/-- The section of the sessions holds what its entries say. -/
theorem Session.Config.faithful (build : Build) :
    Faithful (Session.Config.shape build) Session.Config.ofValue? Session.Config.toValue := by
  intro v holds
  have fields := fieldsHold_iff.1 holds
  simp only [List.forall_mem_cons, List.headD_cons, holds_text_iff, holds_nullable_text_iff,
    Shape.signed, holds_integer_iff, holds_flag_iff, SameSite.shape, holds_choice_iff] at fields
  obtain ⟨⟨_, at_name, name, rfl⟩, ⟨_, at_key, key, rfl⟩, ⟨_, at_path, path, rfl⟩,
    ⟨_, at_domain, domain, rfl⟩, ⟨_, at_age, age, rfl, -⟩, ⟨_, at_http, http, rfl⟩,
    ⟨_, at_secure, secure, rfl⟩, ⟨_, at_site, _, rfl, choice⟩, -⟩ := fields
  obtain ⟨site, named, rfl⟩ := SameSite.exists_of_mem choice
  have domain_read := Value.optionalString?_eq_some_iff.2 (rfl : Value.ofOption domain = _)
  refine ⟨⟨name, key, path, domain, age, http, secure, site⟩, ?_, ?_⟩
  · simp [ofValue?, at_name, at_key, at_path, at_domain, at_age, at_http, at_secure, at_site,
      Value.string?, Value.integer?, Value.bool?, domain_read, named]
  · simp [Session.Config.shape, SameSite.shape, Shape.leaves, fieldLeaves, Shape.signed, Value.at?,
      toValue, Value.member?_object, lookup_cons_eq_ite, List.lookup_append, Value.lookup_present,
      at_name, at_key, at_path, at_domain, at_age, at_http, at_secure, at_site, Value.at?_ofOption]

/-- The section of the tokens holds what its entries say. -/
theorem Settings.Tokens.faithful : Faithful Tokens.shape Tokens.ofValue? Tokens.toValue := by
  intro v holds
  have fields := fieldsHold_iff.1 holds
  simp only [List.forall_mem_cons, List.headD_cons, holds_unsigned_iff] at fields
  obtain ⟨⟨_, at_access, access, rfl, -⟩, ⟨_, at_refresh, refresh, rfl, -⟩, -⟩ := fields
  refine ⟨⟨access, refresh⟩, ?_, ?_⟩
  · simp [ofValue?, at_access, at_refresh, Value.natural?]
  · simp [Tokens.shape, Shape.leaves, fieldLeaves, Shape.unsigned, Value.at?, toValue,
      Value.member?_object, lookup_cons_eq_ite, at_access, at_refresh]

/-- The section of the HTTP client holds what its entries say. -/
theorem Settings.HttpClient.faithful :
    Faithful HttpClient.shape HttpClient.ofValue? HttpClient.toValue := by
  intro v holds
  have fields := fieldsHold_iff.1 holds
  simp only [List.forall_mem_cons, List.headD_cons, holds_unsigned_iff] at fields
  obtain ⟨⟨_, at_timeout, timeout, rfl, -⟩, -⟩ := fields
  refine ⟨⟨timeout⟩, ?_, ?_⟩
  · simp [ofValue?, at_timeout, Value.natural?]
  · simp [HttpClient.shape, Shape.leaves, fieldLeaves, Shape.unsigned, Value.at?, toValue,
      Value.member?_object, at_timeout]

/-- The credentials of a provider hold what their entries say. -/
theorem Provider.Credentials.faithful :
    Faithful Credentials.shape Credentials.ofValue? Credentials.toValue := by
  intro v holds
  have fields := fieldsHold_iff.1 holds
  simp only [List.forall_mem_cons, List.headD_cons, holds_text_iff,
    holds_nullable_text_iff] at fields
  obtain ⟨⟨_, at_client, client, rfl⟩, ⟨_, at_secret, secret, rfl⟩, ⟨_, at_token, token, rfl⟩,
    ⟨_, at_userinfo, userinfo, rfl⟩, -⟩ := fields
  have token_read := Value.optionalString?_eq_some_iff.2 (rfl : Value.ofOption token = _)
  have userinfo_read := Value.optionalString?_eq_some_iff.2 (rfl : Value.ofOption userinfo = _)
  refine ⟨⟨client, secret, token, userinfo⟩, ?_, ?_⟩
  · simp [ofValue?, at_client, at_secret, at_token, at_userinfo, Value.string?, token_read,
      userinfo_read]
  · simp [Credentials.shape, Shape.leaves, fieldLeaves, Value.at?, toValue, Value.member?_object,
      lookup_cons_eq_ite, List.lookup_append, Value.lookup_present, at_client, at_secret, at_token,
      at_userinfo, Value.at?_ofOption]

/-- A provider without credentials is written as `null`. -/
theorem Provider.Config.credentials_faithful :
    Faithful (.nullable Credentials.shape) Config.credentials?
      fun c => (c.map (·.toValue)).getD .null := by
  intro v holds
  rcases holds_nullable_iff.1 holds with rfl | given
  · exact ⟨none, rfl, fun leaf _ => rfl⟩
  · obtain ⟨c, read, same⟩ := Credentials.faithful v given
    refine ⟨some c, ?_, same⟩
    cases v with
    | null => cases read
    | _ => exact congrArg (Option.map some) read

/-- The section of the providers holds what its entries say. -/
theorem Provider.Config.faithful :
    Faithful Provider.Config.shape Provider.Config.ofValue? Provider.Config.toValue := by
  intro v holds
  have fields := fieldsHold_iff.1 holds
  simp only [List.forall_mem_cons, List.headD_cons] at fields
  obtain ⟨⟨_, at_google, google⟩, ⟨_, at_github, github⟩, -⟩ := fields
  obtain ⟨google, read_google, same_google⟩ := credentials_faithful _ google
  obtain ⟨github, read_github, same_github⟩ := credentials_faithful _ github
  refine ⟨⟨google, github⟩, ?_, fun leaf mem => ?_⟩
  · simp [ofValue?, at_google, at_github, read_google, read_github]
  obtain ⟨f, hf, inner, inside, rfl⟩ := mem_fieldLeaves.1 mem
  simp only [List.mem_cons, List.not_mem_nil, or_false] at hf
  -- A provider is written at its name, or left out, which says as little as `null`.
  have absent (o : Option Value) : (o.getD .null).at? inner.path = o.bind (·.at? inner.path) := by
    cases o with
    | none => exact Value.at?_null inner.path
    | some w => rfl
  rcases hf with rfl | rfl
  · have same := same_google inner inside
    simpa [Value.at?, toValue, Value.member?_object, List.lookup_append, Value.lookup_present,
      at_google, absent] using same
  · have same := same_github inner inside
    simpa [Value.at?, toValue, Value.member?_object, List.lookup_append, Value.lookup_present,
      at_github, absent] using same

/-! ## All settings -/

/-- Every value of the shape of settings stands for settings, which hold at each leaf what it
says. -/
theorem Settings.faithful (build : Build) :
    Faithful (Settings.shape build) Settings.ofValue? Settings.toValue := by
  intro v holds
  have fields := fieldsHold_iff.1 holds
  simp only [List.forall_mem_cons, List.headD_cons] at fields
  obtain ⟨⟨_, at_server, server⟩, ⟨_, at_database, database⟩, ⟨_, at_redis, redis⟩,
    ⟨_, at_session, session⟩, ⟨_, at_tokens, tokens⟩, ⟨_, at_client, client⟩,
    ⟨_, at_providers, providers⟩, -⟩ := fields
  obtain ⟨server, read_server, same_server⟩ := Server.faithful build _ server
  obtain ⟨database, read_database, same_database⟩ := Database.faithful _ database
  obtain ⟨redis, read_redis, same_redis⟩ := Redis.faithful _ redis
  obtain ⟨session, read_session, same_session⟩ := Session.Config.faithful build _ session
  obtain ⟨tokens, read_tokens, same_tokens⟩ := Tokens.faithful _ tokens
  obtain ⟨client, read_client, same_client⟩ := HttpClient.faithful _ client
  obtain ⟨providers, read_providers, same_providers⟩ := Provider.Config.faithful _ providers
  refine ⟨⟨server, database, redis, session, tokens, client, providers⟩, ?_, fun leaf mem => ?_⟩
  · simp [ofValue?, at_server, at_database, at_redis, at_session, at_tokens, at_client,
      at_providers, read_server, read_database, read_redis, read_session, read_tokens, read_client,
      read_providers]
  obtain ⟨f, hf, inner, inside, rfl⟩ := mem_fieldLeaves.1 mem
  simp only [List.mem_cons, List.not_mem_nil, or_false] at hf
  -- Both sides go one name down, into the section, and agree there.
  rcases hf with rfl | rfl | rfl | rfl | rfl | rfl | rfl
  · exact (same_server inner inside).trans (Value.at?_cons_of_member? at_server _).symm
  · exact (same_database inner inside).trans (Value.at?_cons_of_member? at_database _).symm
  · exact (same_redis inner inside).trans (Value.at?_cons_of_member? at_redis _).symm
  · exact (same_session inner inside).trans (Value.at?_cons_of_member? at_session _).symm
  · exact (same_tokens inner inside).trans (Value.at?_cons_of_member? at_tokens _).symm
  · exact (same_client inner inside).trans (Value.at?_cons_of_member? at_client _).symm
  · exact (same_providers inner inside).trans (Value.at?_cons_of_member? at_providers _).symm

end FederatedLogin
