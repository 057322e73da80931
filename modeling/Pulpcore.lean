import Pulpcore.Models.Basic
import Pulpcore.Stages.QueryExisting
import Pulpcore.Stages.Saver
import Pulpcore.Stages.Pipeline
import Pulpcore.Stages.Interleaving
import Pulpcore.Stages.Ingest
import Pulpcore.Stages.Chain
import Pulpcore.Tasks.RepairCa
import Pulpcore.Tasks.Repair
import Pulpcore.Tasks.RepairScan
import Pulpcore.Tasks.RepairFiles
import Pulpcore.Tasks.Versions
import Pulpcore.Serializers.Text
import Pulpcore.Serializers.Url
import Pulpcore.Serializers.Remote
import Pulpcore.Serializers.Certificate
import Pulpcore.Serializers.Json
import Pulpcore.Serializers.Fields
import Pulpcore.Serializers.StorageSettings
import Pulpcore.Serializers.StorageClasses
import Pulpcore.Serializers.Domain
import Pulpcore.Serializers.DomainStore
