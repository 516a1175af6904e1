import RecipientCallout.Callout.Basic
import RecipientCallout.Proofs.Steps

/-!
# Callouts of configurations

What a callout has from the configuration that it was made of. `ofConfig_eq_ok` says it for all fields
at once; the settings and the mode of acceptance follow.
-/

namespace RecipientCallout.Callout

variable {store : Files.Store} {config : Config} {callout : Callout}

/-- A callout was made if its configuration is valid, the password can be had and the templates have
slots; it then has all other fields from the configuration. -/
lemma ofConfig_eq_ok (made : ofConfig store config = .ok callout) :
    config.validate = .ok () ∧
    config.password store = .ok callout.bindPassword ∧
    config.userTemplate = .ok callout.userTemplate ∧
    config.folderTemplate = .ok callout.folderTemplate ∧
    callout =
      { domain := ⟨config.acceptedDomain, config.domainMatch⟩
        settings := config.directorySettings
        bindDn := config.bindDn
        bindPassword := callout.bindPassword
        userSearchBase := config.userSearchBase
        folderSearchBase := config.folderSearchBase
        userTemplate := callout.userTemplate
        folderTemplate := callout.folderTemplate
        proxyPrefix := config.proxyPrefix
        mailAttribute := config.mailAttribute
        acceptMode := config.acceptMode } := by
  obtain ⟨⟨⟩, validated, made⟩ := exists_of_bind_eq_ok made
  obtain ⟨secret, password, made⟩ := exists_of_bind_eq_ok made
  obtain ⟨userTemplate, users, made⟩ := exists_of_bind_eq_ok made
  obtain ⟨folderTemplate, folders, made⟩ := exists_of_bind_eq_ok made
  cases made
  exact ⟨validated, password, users, folders, rfl⟩

/-- A callout reaches its directory by the settings of its configuration. -/
lemma settings_of_ofConfig (made : ofConfig store config = .ok callout) :
    callout.settings = config.directorySettings := by
  obtain ⟨-, -, -, -, e⟩ := ofConfig_eq_ok made
  rw [e]

/-- A callout accepts in the way that its configuration says. -/
lemma acceptMode_of_ofConfig (made : ofConfig store config = .ok callout) :
    callout.acceptMode = config.acceptMode := by
  obtain ⟨-, -, -, -, e⟩ := ofConfig_eq_ok made
  rw [e]

/-- A callout accepts the domain of its configuration. -/
lemma domain_of_ofConfig (made : ofConfig store config = .ok callout) :
    callout.domain = ⟨config.acceptedDomain, config.domainMatch⟩ := by
  obtain ⟨-, -, -, -, e⟩ := ofConfig_eq_ok made
  rw [e]

end RecipientCallout.Callout
