import Eda093.Lsh.Kernel
import Eda093.Lsh.Shell
import Eda093.Lsh.RunCommand
import Eda093.Lsh.Control
import Eda093.Lsh.Wiring
import Eda093.Lsh.Pipeline
import Eda093.Lsh.Waiting
import Eda093.Lsh.Descriptors
import Eda093.Lsh.Stages
import Eda093.Lsh.Main
import Eda093.Lsh.Strip
import Eda093.Lsh.Session
import Eda093.Lsh.LshC
import Eda093.Lsh.FirstDraft
import Eda093.Pintos.Timer
import Eda093.Pintos.Alarm
import Eda093.Pintos.Lock
import Eda093.Pintos.Calibrate
import Eda093.Pintos.Delay
