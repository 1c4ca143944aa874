import ScopedSearch.Records
import ScopedSearch.Settings

/-!
# Settings as a record

The settings as they are shown: one record for each section.
-/

namespace ScopedSearch

def ClusterSettings.toJson (s : ClusterSettings) : Json :=
  .record [
    ("addresses", .texts s.addresses), ("index", .text s.index),
    ("username", optionJson s.username), ("password", optionJson s.password),
    ("headers", .record (s.headers.map fun (name, value) => (name, .text value))),
    ("timeout_secs", .nat s.timeoutSeconds), ("insecure", .bool s.insecure)]

def EngineSettings.toJson (s : EngineSettings) : Json :=
  .record [
    ("type", .text s.kind.word), ("data_dir", .text s.dataDir),
    ("writer_heap_bytes", .nat s.writerHeap), ("remote", s.remote.toJson)]

def ExtractorSettings.toJson (s : ExtractorSettings) : Json :=
  .record [
    ("type", .text s.kind.word), ("tika_url", .text s.url),
    ("timeout_secs", .nat s.timeoutSeconds), ("max_file_size", .nat s.maxFileSize)]

def EventSettings.toJson (s : EventSettings) : Json :=
  .record [
    ("async_uploads", .bool s.asyncUploads),
    ("rebuild_after_mutation", .bool s.rebuildAfterMutation), ("workers", .nat s.workers),
    ("channel_size", .nat s.channelSize)]

def Settings.toJson (s : Settings) : Json :=
  .record [
    ("engine", s.engine.toJson), ("extractor", s.extractor.toJson), ("events", s.events.toJson),
    ("cache", .record [("ttl_ms", .nat s.cache.lifetime), ("capacity", .nat s.cache.capacity)]),
    ("reindex", .record [("policy", .text s.policy.word)]),
    ("storage", .record [("root", .text s.storageRoot)]),
    ("token_manager", .record [
      ("secret", .text s.tokens.secret), ("token_ttl_secs", .int s.tokens.lifetime)]),
    ("service_account", .record [
      ("id", .text s.account.id), ("secret", .text s.account.secret)])]

end ScopedSearch
