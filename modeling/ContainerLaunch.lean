import ContainerLaunch.Main
import ContainerLaunch.Proofs.Announcements
import ContainerLaunch.Proofs.Collisions
import ContainerLaunch.Proofs.Colours
import ContainerLaunch.Proofs.ExitCodes
import ContainerLaunch.Proofs.Explanations
import ContainerLaunch.Proofs.Forwarding
import ContainerLaunch.Proofs.Intake
import ContainerLaunch.Proofs.Joins
import ContainerLaunch.Proofs.Log
import ContainerLaunch.Proofs.Lossless
import ContainerLaunch.Proofs.Plans
import ContainerLaunch.Proofs.Sessions
import ContainerLaunch.Proofs.Unpacking
import ContainerLaunch.Session
import ContainerLaunch.Proofs.Blanks
import ContainerLaunch.Proofs.Settings
import ContainerLaunch.Proofs.Divisions
import ContainerLaunch.Proofs.Activities
import ContainerLaunch.Proofs.Failures
import ContainerLaunch.Proofs.Channels
import ContainerLaunch.Proofs.FileTrees
import ContainerLaunch.Proofs.Matches
import ContainerLaunch.Proofs.Patterns
import ContainerLaunch.Proofs.Rehearsals
