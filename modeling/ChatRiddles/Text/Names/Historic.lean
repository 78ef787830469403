import ChatRiddles.Text.Names.Run
/-!
The names of historic scripts of India, and cuneiform.
-/

namespace ChatRiddles.Text.Names

/-- The names of historic scripts of India, and cuneiform. -/
def historic : List Run := [
  ⟨0x11000, "
aBRAHMI SIGN CANDRABINDUmANUSVARAmVISARGAmJIHVAMULIYAmUPADHMANIYAhLETTER ApAoIpIoUpUoVOCALIC RxR
wLxLoEoAIoOoAUoKApHAoGApHAoNGAoCApHAoJApHAoNYAoTTAqHAoDDAqHAoNNAoTApHAoDApHAoNAoPApHAoBApHAoMA
oYAoRAoLAoVAoSHApSApAoHAoLLAoOLD TAMIL LLLAyRRAyNNNAhVOWEL SIGN AAsBHATTIPROLU AAsItIsUtU
sVOCALIC Rz RRz Lz LLsEsAIsOsAUiIRAMAhDANDAiOUBLE DANDAhPUNCTUATION DOTvUBLE DOTtLINE
tCRESCENT BARtLOTUS"⟩,
  ⟨0x11052, "
aBRAHMI NUMBER ONEoTWOpHREEoFOURpIVEoSIXpEVENoEIGHToNINEoTENpWENTYpHIRTYoFORTYpIFTYoSIXTYpEVENTY
oEIGHTYoNINETYoONE HUNDREDsTHOUSANDhDIGIT ZEROnONEnTWOoHREEnFOURoIVEnSIXoEVENnEIGHTnNINE
hSIGN OLD TAMIL VIRAMAhLETTER OLD TAMIL SHORT EzHORT OhVOWEL SIGN OLD TAMIL SHORT EzIL SHORT O
hLETTER OLD TAMIL LLA"⟩,
  ⟨0x1107f, "
aBRAHMI NUMBER JOINERaKAITHI SIGN CANDRABINDUmANUSVARAmVISARGAhLETTER ApAoIpIoUpUoEoAIoOoAUoKA
pHAoGApHAoNGAoCApHAoJApHAoNYAoTTAqHAoDDAqDHAqHAoRHAoNNAoTApHAoDApHAoNAoPApHAoBApHAoMAoYAoRAoLA
oVAoSHApSApAoHAhVOWEL SIGN AAsItIsUtUsEsAIsOsAUhSIGN VIRAMAmNUKTAhABBREVIATION SIGN
hENUMERATION SIGNhNUMBER SIGNhSECTION MARKhDOUBLE SECTION MARKiANDAiOUBLE DANDA
hVOWEL SIGN VOCALIC R"⟩,
  ⟨0x110cd, "aKAITHI NUMBER SIGN ABOVE"⟩,
  ⟨0x110d0, "
aSORA SOMPENG LETTER SAHuTAHuBAHuCAHuDAHuGAHuMAHuNGAHuLAHuNAHuVAHuPAHuYAHuRAHuHAHuKAHuJAHuNYAH
uAHuEEHuIHuUHuOHuEHuMAE"⟩,
  ⟨0x110f0, "aSORA SOMPENG DIGIT ZEROtONEtTWOuHREEtFOURuIVEtSIXuEVENtEIGHTtNINE"⟩,
  ⟨0x11100, "
aCHAKMA SIGN CANDRABINDUmANUSVARAmVISARGAhLETTER AAoIoUoEoKAApHAAoGAApHAAoNGAAoCAApHAAoJAApHAA
oNYAAoTTAAqHAAoDDAAqHAAoNNAAoTAApHAAoDAApHAAoNAAoPAApHAAoBAApHAAoMAAoYYAApAAoRAAoLAAoWAAoSAAoHAA
hVOWEL SIGN AsItIsUtUsEsAIsOsAUsOIhO MARKhAU MARKhVIRAMAhMAAYYAA"⟩,
  ⟨0x11136, "
aCHAKMA DIGIT ZEROnONEnTWOoHREEnFOURoIVEnSIXoEVENnEIGHTnNINEhSECTION MARKhDANDAiOUBLE DANDA
hQUESTION MARKhLETTER LHAAhVOWEL SIGN AAsEIhLETTER VAA"⟩,
  ⟨0x11150, "
aMAHAJANI LETTER AqIqUqEqOqKArHAqGArHAqCArHAqJArHAqNYAqTTAsHAqDDAsHAqNNAqTArHAqDArHAqNAqPArHAqBA
rHAqMAqRAqLAqVAqSAqHAqRRAjSIGN NUKTAjABBREVIATION SIGNjSECTION MARKjLIGATURE SHRI"⟩,
  ⟨0x11180, "
aSHARADA SIGN CANDRABINDUnANUSVARAnVISARGAiLETTER AqApIqIpUqUpVOCALIC RyRxLyLpEpAIpOpAUpKAqHApGA
qHApNGApCAqHApJAqHApNYApTTArHApDDArHApNNApTAqHApDAqHApNApPAqHApBAqHApMApYApRApLAqLApVApSHAqSAqA
pHAiVOWEL SIGN AAtIuItUuUtVOCALIC RzC RRzC LzC LLtEtAItOtAUiSIGN VIRAMAnAVAGRAHAnJIHVAMULIYA
nUPADHMANIYAiOMiDANDAjOUBLE DANDAiABBREVIATION SIGNiSEPARATORjANDHI MARKjIGN NUKTA
iVOWEL MODIFIER MARKiEXTRA SHORT VOWEL MARKiSUTRA MARKiVOWEL SIGN PRISHTHAMATRA E
iSIGN INVERTED CANDRABINDUiDIGIT ZEROoONEoTWOpHREEoFOURpIVEoSIXpEVENoEIGHToNINEiEKAM
iSIGN SIDDHAMiHEADSTROKEiCONTINUATION SIGNiSECTION MARK-1v2"⟩,
  ⟨0x111e1, "
aSINHALA ARCHAIC DIGIT ONEwTWOxHREEwFOURxIVEwSIXxEVENwEIGHTwNINEqNUMBER TENyWENTYyHIRTYxFORTY
yIFTYxSIXTYyEVENTYxEIGHTYxNINETYxONE HUNDREDzE THOUSAND"⟩,
  ⟨0x11200, "aKHOJKI LETTER ApAoIoUoEoAIoOoAUoKApHAoGApGApHAoNGAoCApHAoJApJA"⟩,
  ⟨0x11213, "
aKHOJKI LETTER NYAoTTAqHAoDDAqHAoNNAoTApHAoDApDDApHAoNAoPApHAoBApBApHAoMAoYAoRAoLAoVAoSAoHAoLLA
hVOWEL SIGN AAsItIsUsEsAIsOsAUhSIGN ANUSVARAmVIRAMAmNUKTAmSHADDAhDANDAiOUBLE DANDA
hWORD SEPARATORhSECTION MARKhDOUBLE SECTION MARKhABBREVIATION SIGNhSIGN SUKUN"⟩,
  ⟨0x11280, "aMULTANI LETTER ApIpUpEpKAqHApGA"⟩,
  ⟨0x11288, "aMULTANI LETTER GHA"⟩,
  ⟨0x1128a, "aMULTANI LETTER CAqHApJAqJA"⟩,
  ⟨0x1128f, "aMULTANI LETTER NYApTTArHApDDArDArHApNNApTAqHApDAqHApNApPAqHApBA"⟩,
  ⟨0x1129f, "aMULTANI LETTER BHApMApYApRApLApVApSApHApRRAqHAiSECTION MARK"⟩,
  ⟨0x112b0, "
aKHUDAWADI LETTER AsArIsIrUsUrErAIrOrAUrKAsHArGAsGAsHArNGArCAsHArJAsJAsHArNYArTTAtHArDDAtDArRRA
rDDHArNNArTAsHArDAsHArNArPAsHArBAsBAsHArMArYArRArLArVArSHAsArHAkSIGN ANUSVARAkVOWEL SIGN AAvIwI
vUwUvEvAIvOvAUkSIGN NUKTApVIRAMA"⟩,
  ⟨0x112f0, "aKHUDAWADI DIGIT ZEROqONEqTWOrHREEqFOURrIVEqSIXrEVENqEIGHTqNINE"⟩,
  ⟨0x11300, "aGRANTHA SIGN COMBINING ANUSVARA ABOVEoANDRABINDUnANUSVARAnVISARGA"⟩,
  ⟨0x11305, "aGRANTHA LETTER AqApIqIpUqUpVOCALIC RxL"⟩,
  ⟨0x1130f, "aGRANTHA LETTER EEpAI"⟩,
  ⟨0x11313, "
aGRANTHA LETTER OOpAUpKAqHApGAqHApNGApCAqHApJAqHApNYApTTArHApDDArHApNNApTAqHApDAqHApNA"⟩,
  ⟨0x1132a, "aGRANTHA LETTER PAqHApBAqHApMApYApRA"⟩,
  ⟨0x11332, "aGRANTHA LETTER LAqLA"⟩,
  ⟨0x11335, "aGRANTHA LETTER VApSHAqSAqApHA"⟩,
  ⟨0x1133b, "
aCOMBINING BINDU BELOWaGRANTHA SIGN NUKTAnAVAGRAHAiVOWEL SIGN AAtIuItUuUtVOCALIC RzC RR"⟩,
  ⟨0x11347, "aGRANTHA VOWEL SIGN EEtAI"⟩,
  ⟨0x1134b, "aGRANTHA VOWEL SIGN OOtAUiSIGN VIRAMA"⟩,
  ⟨0x11350, "aGRANTHA OM"⟩,
  ⟨0x11357, "aGRANTHA AU LENGTH MARK"⟩,
  ⟨0x1135d, "
aGRANTHA SIGN PLUTAiLETTER VEDIC ANUSVARAvDOUBLE ANUSVARAqOCALIC RRxLLiVOWEL SIGN VOCALIC LzC LL"⟩,
  ⟨0x11366, "aCOMBINING GRANTHA DIGIT ZEROyONEyTWOzHREEyFOURzIVEySIX"⟩,
  ⟨0x11370, "aCOMBINING GRANTHA LETTER AzKAzNAzVIzPA"⟩,
  ⟨0x11400, "
aNEWA LETTER AnAmInImUnUmVOCALIC RvRuLvLmEmAImOmAUmKAnHAmGAnHAmNGAoHAmCAnHAmJAnHAmNYAoHAmTTAoHA
mDDAoHAmNNAmTAnHAmDAnHAmNAnHAmPAnHAmBAnHAmMAnHAmYAmRAnHAmLAnHAmWAmSHAnSAnAmHAfVOWEL SIGN AAqIrI
qUrUqVOCALIC RzRyLzLqEqAIqOqAUfSIGN VIRAMAkCANDRABINDUkANUSVARAkVISARGAkNUKTAkAVAGRAHA
kFINAL ANUSVARAfOMfSIDDHIfDANDAgOUBLE DANDAfCOMMAfGAP FILLERfABBREVIATION SIGNfDIGIT ZEROlONE
lTWOmHREElFOURmIVElSIXmEVENlEIGHTlNINEgOUBLE COMMAfPLACEHOLDER MARK"⟩,
  ⟨0x1145d, "
aNEWA INSERTION SIGNfSANDHI MARKfLETTER VEDIC ANUSVARAfSIGN JIHVAMULIYAkUPADHMANIYA"⟩,
  ⟨0x11480, "
aTIRHUTA ANJIiLETTER AqApIqIpUqUpVOCALIC RyRxLyLpEpAIpOpAUpKAqHApGAqHApNGApCAqHApJAqHApNYApTTA
rHApDDArHApNNApTAqHApDAqHApNApPAqHApBAqHApMApYApRApLApVApSHAqSAqApHAiVOWEL SIGN AAtIuItUuU
tVOCALIC RzC RRzC LzC LLtEtSHORT EtAItOtSHORT OtAUiSIGN CANDRABINDUnANUSVARAnVISARGApRAMAnNUKTA
nAVAGRAHAiGVANGiABBREVIATION SIGNiOM"⟩,
  ⟨0x114d0, "aTIRHUTA DIGIT ZEROoONEoTWOpHREEoFOURpIVEoSIXpEVENoEIGHToNINE"⟩,
  ⟨0x11580, "
aSIDDHAM LETTER AqApIqIpUqUpVOCALIC RyRxLyLpEpAIpOpAUpKAqHApGAqHApNGApCAqHApJAqHApNYApTTArHApDDA
rHApNNApTAqHApDAqHApNApPAqHApBAqHApMApYApRApLApVApSHAqSAqApHAiVOWEL SIGN AAtIuItUuUtVOCALIC R
zC RR"⟩,
  ⟨0x115b8, "
aSIDDHAM VOWEL SIGN EtAItOtAUiSIGN CANDRABINDUnANUSVARAnVISARGApRAMAnNUKTAnSIDDHAMiDANDA
jOUBLE DANDAiSEPARATOR DOTsBARiREPETITION MARK-1y2y3iEND OF TEXT MARK
iSECTION MARK WITH TRIDENT AND U-SHAPED ORNAMENTSz TRIDENT AND DOTTED CRESCENTS
z RAYS AND DOTTED CRESCENTSz RAYS AND DOTTED DOUBLE CRESCENTSz RAYS AND DOTTED TRIPLE CRESCENTS
vDOUBLE RINGzLE RING WITH RAYSvWITH DOUBLE CRESCENTSz TRIPLE CRESCENTSz QUADRUPLE CRESCENTS
z SEPTUPLE CRESCENTSz CIRCLES AND RAYSz CIRCLES AND TWO ENCLOSURESz CIRCLES AND FOUR ENCLOSURES
iLETTER THREE-CIRCLE ALTERNATE IqWO-CIRCLE ALTERNATE Iz ALTERNATE IIpALTERNATE U
iVOWEL SIGN ALTERNATE UzATE UU"⟩,
  ⟨0x11600, "
aMODI LETTER AnAmInImUnUmVOCALIC RvRuLvLmEmAImOmAUmKAnHAmGAnHAmNGAmCAnHAmJAnHAmNYAmTTAoHAmDDAoHA
mNNAmTAnHAmDAnHAmNAmPAnHAmBAnHAmMAmYAmRAmLAmVAmSHAnSAnAmHAmLLAfVOWEL SIGN AAqIrIqUrUqVOCALIC RzR
yLzLqEqAIqOqAUfSIGN ANUSVARAkVISARGAmRAMAkARDHACANDRAfDANDAgOUBLE DANDAfABBREVIATION SIGN
fSIGN HUVA"⟩,
  ⟨0x11650, "aMODI DIGIT ZEROlONElTWOmHREElFOURmIVElSIXmEVENlEIGHTlNINE"⟩,
  ⟨0x11660, "
aMONGOLIAN BIRGA WITH ORNAMENTkROTATED BIRGAkDOUBLE BIRGA WITH ORNAMENT
kTRIPLE BIRGA WITH ORNAMENTkBIRGA WITH DOUBLE ORNAMENTkROTATED BIRGA WITH ORNAMENT
zITH DOUBLE ORNAMENTkINVERTED BIRGAy WITH DOUBLE ORNAMENTkSWIRL BIRGAv WITH ORNAMENT
zH DOUBLE ORNAMENTkTURNED SWIRL BIRGA WITH DOUBLE ORNAMENT"⟩,
  ⟨0x11680, "
aTAKRI LETTER AoAnIoInUoUnEnAInOnAUnKAoHAnGAoHAnNGAnCAoHAnJAoHAnNYAnTTApHAnDDApHAnNNAnTAoHAnDA
oHAnNAnPAoHAnBAoHAnMAnYAnRAnLAnVAnSHAoAnHAnRRAgSIGN ANUSVARAlVISARGAgVOWEL SIGN AArIsIrUsUrErAI
rOrAUgSIGN VIRAMAlNUKTAgLETTER ARCHAIC KHAgABBREVIATION SIGN"⟩,
  ⟨0x116c0, "aTAKRI DIGIT ZEROmONEmTWOnHREEmFOURnIVEmSIXnEVENmEIGHTmNINE"⟩,
  ⟨0x11700, "
aAHOM LETTER KAnHAmNGAnAmTAmALTERNATE TAmPAnHAmBAmMAmJAmCHAmTHAmRAmLAmSAmNYAmHAmAmDAnHAmGA
mALTERNATE GAmGHAmBHAmJHAmALTERNATE BA"⟩,
  ⟨0x1171d, "
aAHOM CONSONANT SIGN MEDIAL LAzL RAzL LIGATING RAfVOWEL SIGN ArAqIrIqUrUqEqAWqOqAIrMfSIGN KILLER"⟩,
  ⟨0x11730, "
aAHOM DIGIT ZEROlONElTWOmHREElFOURmIVElSIXmEVENlEIGHTlNINEfNUMBER TENnWENTYfSIGN SMALL SECTION
lECTIONkRULAIgYMBOL VIfLETTER CAmTTAoHAmDDAoHAmNNAmLLA"⟩,
  ⟨0x11800, "
aDOGRA LETTER AoAnIoInUoUnEnAInOnAUnKAoHAnGAoHAnNGAnCAoHAnJAoHAnNYAnTTApHAnDDApHAnNNAnTAoHAnDA
oHAnNAnPAoHAnBAoHAnMAnYAnRAnLAnVAnSHAoSAoAnHAnRRAgVOWEL SIGN AArIsIrUsUrVOCALIC RzRRrErAIrOrAU
gSIGN ANUSVARAlVISARGAnRAMAlNUKTAgABBREVIATION SIGN"⟩,
  ⟨0x118a0, "
aWARANG CITI CAPITAL LETTER NGAAzR AzR WIzR YUzR YAzR YOzR IIzR UUzR EzR OzR ANGzR GAzR KOzR ENY
zR YUJzR UCzR ENNzR ODDzR TTEzR NUNGzR DAzR ATzR AMzR BUzR PUzR HIYOzR HOLOzR HORRzR HARzR SSUU
zR SIIzR VIYOmSMALL LETTER NGAAzAzWIzYUzYAzYOzIIzUUzEzOzANGzGAzKOzENYzYUJzUCzENNzODDzTTEzNUNGzDA
zATzAMzBUzPUzHIYOzHOLOzHORRzHARzSSUUzSIIzVIYOmDIGIT ZEROsONEsTWOtHREEsFOURtIVEsSIXtEVENsEIGHT
sNINEmNUMBER TENuWENTYuHIRTYtFORTYuIFTYtSIXTYuEVENTYtEIGHTYtNINETY"⟩,
  ⟨0x118ff, "aWARANG CITI OMaDIVES AKURU LETTER AuAtIuItUuUtE"⟩,
  ⟨0x11909, "aDIVES AKURU LETTER O"⟩,
  ⟨0x1190c, "aDIVES AKURU LETTER KAuHAtGAuHAtNGAtCAuHAtJA"⟩,
  ⟨0x11915, "aDIVES AKURU LETTER NYAtTTA"⟩,
  ⟨0x11918, "
aDIVES AKURU LETTER DDAvHAtNNAtTAuHAtDAuHAtNAtPAuHAtBAuHAtMAtYAuYAtRAtLAtVAtSHAuSAuAtHAtLLAtZA
mVOWEL SIGN AAxIyIxUyUxE"⟩,
  ⟨0x11937, "aDIVES AKURU VOWEL SIGN AIxO"⟩,
  ⟨0x1193b, "
aDIVES AKURU SIGN ANUSVARArCANDRABINDUrHALANTAmVIRAMAmPREFIXED NASAL SIGNmMEDIAL YAmINITIAL RA
mMEDIAL RAmSIGN NUKTAmDOUBLE DANDAmGAP FILLERmEND OF TEXT MARK"⟩,
  ⟨0x11950, "aDIVES AKURU DIGIT ZEROsONEsTWOtHREEsFOURtIVEsSIXtEVENsEIGHTsNINE"⟩,
  ⟨0x119a0, "aNANDINAGARI LETTER AuAtIuItUuUtVOCALIC RzC RR"⟩,
  ⟨0x119aa, "
aNANDINAGARI LETTER EtAItOtAUtKAuHAtGAuHAtNGAtCAuHAtJAuHAtNYAtTTAvHAtDDAvHAtNNAtTAuHAtDAuHAtNA
tPAuHAtBAuHAtMAtYAtRAtLAtVAtSHAuSAuAtHAtLLAtRRAmVOWEL SIGN AAxIyIxUyUxVOCALIC RzCALIC RR"⟩,
  ⟨0x119da, "
aNANDINAGARI VOWEL SIGN ExAIxOxAUmSIGN ANUSVARArVISARGAtRAMArAVAGRAHArSIDDHAMmHEADSTROKE
mVOWEL SIGN PRISHTHAMATRA E"⟩,
  ⟨0x11a00, "
aZANABAZAR SQUARE LETTER ArVOWEL SIGN IzGN UEzGN UzGN EzGN OEzGN OzGN AIzGN AUzGN REVERSED I
xLENGTH MARKrLETTER KAzHAyGAzHAyNGAyCAzHAyJAyNYAyTTAzTHAyDDAzDHAyNNAyTAzHAyDAzHAyNAyPAzHAyBAzHA
yMAyTSAzSHAyDZAzZHAyZHAzAy-AyYAyRAyLAyVAySHAzSAzAyHAyKSSArFINAL CONSONANT MARKrSIGN VIRAMA
wCANDRABINDUzDRABINDU WITH ORNAMENTzDRA WITH ORNAMENTwANUSVARAwVISARGArCLUSTER-INITIAL LETTER RA
zFINAL LETTER YAzFINAL LETTER RAzFINAL LETTER LAzFINAL LETTER VArINITIAL HEAD MARK
rCLOSING HEAD MARKrMARK TSHEGwSHADwDOUBLE SHADwLONG TSHEGrINITIAL DOUBLE-LINED HEAD MARK
rCLOSING DOUBLE-LINED HEAD MARKrSUBJOINER"⟩,
  ⟨0x11a50, "
aSOYOMBO LETTER AiVOWEL SIGN ItUEutEtOuEtAIuUtVOCALIC RzC LoLENGTH MARKiLETTER KAqHApGAqHApNGA
pCAqHApJAqHApNYApTTArHApDDArHApNNApTAqHApDAqHApNApPAqHApBAqHApMApTSArHApDZApZHAqAp-ApYApRApLApVA
pSHAqSAqApHApKSSAiSIGN JIHVAMULIYAnUPADHMANIYAiCLUSTER-INITIAL LETTER RAzETTER LAzETTER SHA
zETTER SAiFINAL CONSONANT SIGN GzIGN KzIGN NGzIGN DzIGN NzIGN BzIGN MzIGN RzIGN LzIGN SHzIGN S
zIGN -AiSIGN ANUSVARAnVISARGAiGEMINATION MARKiSUBJOINERiMARK TSHEGnSHADnDOUBLE SHADnPLUTA
iHEAD MARK WITH MOON AND SUN AND TRIPLE FLAMEzON AND SUN AND FLAMEzON AND SUNiTERMINAL MARK-1w2"⟩,
  ⟨0x11ab0, "
aCANADIAN SYLLABICS NATTILIK HIzIK HIIzIK HOzIK HOOzIK HAzIK HAAzIK SHRIzIK SHRIIzIK SHRO
zIK SHROOzIK SHRAzIK SHRAAtSPEvIvOvAaPAU CIN HAU LETTER PAtKAtLAtMAtDAtZAtVAtNGAtHAtGAtKHAtSAtBA
tCAtTAuHAtNAtPHAtRAtFAtCHAtAtEtItOtUuAtIAtFINAL PzKzTzMzNzLzWzNGzYmRISING TONE LONGx
mSANDHI GLOTTAL STOPmRISING TONE LONG FINALyFINALmSANDHI GLOTTAL STOP FINALtTONE LONGx
x LONG FINALyFINALmMID-LEVEL TONEmGLOTTAL STOP VARIANTmMID-LEVEL TONE LONG FINALzE FINAL
mLOW-FALLING TONE LONGzONEmGLOTTAL STOPmLOW-FALLING TONE LONG FINALzONE FINALmGLOTTAL STOP FINAL"⟩,
  ⟨0x11c00, "aBHAIKSUKI LETTER AsArIsIrUsUrVOCALIC RzRRzL"⟩,
  ⟨0x11c0a, "
aBHAIKSUKI LETTER ErAIrOrAUrKAsHArGAsHArNGArCAsHArJAsHArNYArTTAtHArDDAtHArNNArTAsHArDAsHArNArPA
sHArBAsHArMArYArRArLArVArSHAsSAsArHAkVOWEL SIGN AAvIwIvUwUvVOCALIC RzLIC RRzLIC L"⟩,
  ⟨0x11c38, "
aBHAIKSUKI VOWEL SIGN EvAIvOvAUkSIGN CANDRABINDUpANUSVARApVISARGArRAMApAVAGRAHAkDANDA
lOUBLE DANDAkWORD SEPARATORkGAP FILLER-1v2"⟩,
  ⟨0x11c50, "
aBHAIKSUKI DIGIT ZEROqONEqTWOrHREEqFOURrIVEqSIXrEVENqEIGHTqNINEkNUMBER ONErTWOsHREErFOURsIVErSIX
sEVENrEIGHTrNINErTENsWENTYsHIRTYrFORTYsIFTYrSIXTYsEVENTYrEIGHTYrNINETYkHUNDREDS UNIT MARK"⟩,
  ⟨0x11c70, "
aMARCHEN HEAD MARKiMARK SHADiLETTER KAqHApGApNGApCAqHApJApNYApTAqHApDApNApPAqHApBApMApTSArHApDZA
pWApZHAqAp-ApYApRApLApSHAqApHApA"⟩,
  ⟨0x11c92, "
aMARCHEN SUBJOINED LETTER KAzKHAzGAzNGAzCAzCHAzJAzNYAzTAzTHAzDAzNAzPAzPHAzBAzMAzTSAzTSHAzDZAzWA
zZHAzZA"⟩,
  ⟨0x11ca9, "
aMARCHEN SUBJOINED LETTER YAzRAzLAzSHAzSAzHAzAiVOWEL SIGN AAtItUtEtOiSIGN ANUSVARAnCANDRABINDU"⟩,
  ⟨0x11d00, "aMASARAM GONDI LETTER AwAvIwIvUwUvE"⟩,
  ⟨0x11d08, "aMASARAM GONDI LETTER AIvO"⟩,
  ⟨0x11d0b, "
aMASARAM GONDI LETTER AUvKAwHAvGAwHAvNGAvCAwHAvJAwHAvNYAvTTAxHAvDDAxHAvNNAvTAwHAvDAwHAvNAvPAwHA
vBAwHAvMAvYAvRAvLAvVAvSHAwSAwAvHAvLLAvKSSAvJNYAvTRAoVOWEL SIGN AAzIzIIzUzUUzVOCALIC R"⟩,
  ⟨0x11d3a, "aMASARAM GONDI VOWEL SIGN E"⟩,
  ⟨0x11d3c, "aMASARAM GONDI VOWEL SIGN AIzO"⟩,
  ⟨0x11d3f, "
aMASARAM GONDI VOWEL SIGN AUoSIGN ANUSVARAtVISARGAtNUKTAtCANDRAtHALANTAoVIRAMAoREPHApA-KARA"⟩,
  ⟨0x11d50, "aMASARAM GONDI DIGIT ZEROuONEuTWOvHREEuFOURvIVEuSIXvEVENuEIGHTuNINE"⟩,
  ⟨0x11d60, "aGUNJALA GONDI LETTER AwAvIwIvUwU"⟩,
  ⟨0x11d67, "aGUNJALA GONDI LETTER EEvAI"⟩,
  ⟨0x11d6a, "
aGUNJALA GONDI LETTER OOvAUvYAvVAvBAwHAvMAvKAwHAvTAwHAvLAvGAwHAvDAwHAvNAvCAwHAvTTAxHAvLLAvJAwHA
vDDAxHAvNGAvPAwHAvHAvRAvSAoVOWEL SIGN AAzIzIIzUzUU"⟩,
  ⟨0x11d90, "aGUNJALA GONDI VOWEL SIGN EEzAI"⟩,
  ⟨0x11d93, "aGUNJALA GONDI VOWEL SIGN OOzAUoSIGN ANUSVARAtVISARGAoVIRAMAoOM"⟩,
  ⟨0x11da0, "aGUNJALA GONDI DIGIT ZEROuONEuTWOvHREEuFOURvIVEuSIXvEVENuEIGHTuNINE"⟩,
  ⟨0x11ee0, "
aMAKASAR LETTER KApGApNGApPApBApMApTApDApNApCApJApNYApYApRApLApVApSApAiANGKAiVOWEL SIGN ItUtEtO
iPASSIMBANGiEND OF SECTION"⟩,
  ⟨0x11fb0, "aLISU LETTER YHA"⟩,
  ⟨0x11fc0, "
aTAMIL FRACTION ONE THREE-HUNDRED-AND-TWENTIETHtONE-HUNDRED-AND-SIXTIETHtEIGHTIETHtSIXTY-FOURTH
tFORTIETHtTHIRTY-SECONDpTHREE EIGHTIETHSvSIXTY-FOURTHSpONE TWENTIETHtSIXTEENTH-1zNTH-2tTENTH
tEIGHTHpTHREE TWENTIETHSvSIXTEENTHSpONE FIFTHtQUARTERtHALF-1y2pTHREE QUARTERS
pDOWNSCALING FACTOR KIIZHgSIGN NELlCEVITUlAAZHAAKKUlUZHAKKUlMUUVUZHAKKUlKURUNIlPATHAKKU
lMUKKURUNIlKAACUlPANAMmONlVARAAKANlPAARAMlKUZHIlVELIgWET CULTIVATION SIGNgDRY CULTIVATION SIGN
gLAND SIGNgSALT PAN SIGNgTRADITIONAL CREDIT SIGNsNUMBER SIGNgCURRENT SIGNgAND ODD SIGN
gSPENT SIGNgTOTAL SIGNgIN POSSESSION SIGNgSTARTING FROM SIGNhIGN MUTHALIYAlVAKAIYARAA"⟩,
  ⟨0x11fff, "
aTAMIL PUNCTUATION END OF TEXTaCUNEIFORM SIGN Aq TIMES AxBADxGAN2 TENUxHAxIGIxLAGAR GUNUxMUSH
xSAGq2qBr TIMES ASH2yDUN3 GUNUyGALzAN2 TENUyHAyIGI GUNUzMINyLAGABySHESHyU PLUS U PLUS UsGUNUr2
s TIMES BALAGzGAN2 TENUzME PLUS ENzSHA3zTAK4qDqKr TIMES ERIN2ySHITA PLUS GISHqLr TIMES ALyDIM2
yGISHyHAyKAD3zIySHEyUSHrANrEPHqMARt TIMES SHEqNr OVER ANsTHREE TIMES
sPLUS NAGA OPPOSING AN PLUS NAGAzGA SQUAREDrSHEqPINqRADt TIMES KURrKABqSAL2rHs ZIDA TENU
tKABA TENUtOVER ASH TUG2 OVER TUG2 TUG2 OVER TUG2 PAPzSH OVER ASH
zSH OVER ASH CROSSING ASH OVER ASH OVER ASHs2sGABpBArDrG3rHAR2rLs OVER BALsAGrRsA2qIr TIMES A
yGARyIGI GUNUqUr OVER BU ABz UNsCROSSING BUrLUGu OVER BULUGrRs2pDArGs KISIM5 TIMES A PLUS MASH
z TIMES AMARz TIMES BALAGz TIMES BIz TIMES GAz TIMES GA PLUS MASHz TIMES GIz TIMES GIR2
z TIMES GUDz TIMES HAz TIMES IRz TIMES IR PLUS LUz TIMES KAKz TIMES LAz TIMES LU
z TIMES LU PLUS MASH2z TIMES LUMz TIMES NEz TIMES PAP PLUS PAPz TIMES SIz TIMES TAK4
z TIMES U2 PLUS GIR2z TIMES USHrMrRsA3t4qIrBrMs TIMES SHEs2rNs KASKAL U GUNU DISHrSHqUr OVER DU
sGUNUsSHESHIGrBs TIMES ESH2s2rGsUDrHrNs3t GUNUy GUNUs4rR2pEq TIMES PAPrOVER E NUN OVER NUNq2
r TIMES A PLUS HA PLUS DAyGARyMIySALzHEyUqDINqGIRqLqNr TIMES GAN2zAN2 TENUyMEsCROSSING EN
sOPPOSING ENsSQUAREDqRENrIN2qSH2qZENt TIMES Az A PLUS LALz A PLUS LAL TIMES LALz ANz BAD
z DUN3 GUNUz DUN3 GUNU GUNUz HAz HA GUNUz IGI GUNUz KASKALz KASKAL SQUAREDz KU3z LA
z LAL TIMES LALz LIz LUz U2z UDpGAr GUNUr2s TIMES A PLUS DA PLUS HAzA PLUS HAzA PLUS IGI
zAB2 TENU PLUS TABzANzASHzASH2 PLUS GALzBADzBAR PLUS RAzBURzBUR PLUS RAzDAzDIzDIM TIMES SHEzDUB
zELzEL PLUS LAzENzEN TIMES GAN2 TENUzGAN2 TENUzGARzGIzGI4zGI4 PLUS AzGIR2 PLUS SU
zHA PLUS LU PLUS ESH2zHALzHAL PLUS LAzHI PLUS LIzHUB2zIGI GUNUzISH PLUS HU PLUS ASHzKAKzKASKAL
zKIDzKID PLUS LALzKU3 PLUS ANzLAzME PLUS ENzMIzNUNzNUN OVER NUNzPAzSALzSARzSHEzSHE PLUS TURzSHID
zSUMzTAK4zUzUDzUD PLUS DUtOVER GA2rBAt CROSSING GABArDs OVER GAD GAR OVER GARrL
s GAD OVER GAD GAR OVER GARsAMrMrNs2t TENUuOVER GAN2uCROSSING GAN2rRs3rSHANqESHTINw TIMES KURqI
r TIMES EyUsCROSSING GIr4s OVER GI4tCROSSING GI4rDIMrR2t GUNUs3t TIMES A PLUS IGIz GAN2 TENU
z IGIz LU PLUS IGIz PArSALsHt CROSSING GISHuTIMES BADz TAK4vENUqUr CROSSING GUr2s TIMES KAK
zKAK TIMES IGI GUNUzNUNzSAL PLUS TUG2tGUNUrDs TIMES A PLUS KURzKURtOVER GUD LUGALrLrMs TIMES SHE
rRs7sUNtSHpHAr TENUsGUNUrLqIr TIMES ASHzSH2yBADyDISHyGADyKINyNUNySHEyUqUrB2t TIMES ANz HAL
z KASKALz LISHz UDrL2pIq AqBqDIMt OVER IDIM BURzIDIM SQUAREDqGrIs DIBtRI
tOVER IGI SHIR OVER SHIR UD OVER UDtGUNUqLr TIMES GAN2 TENUr2qMr TIMES TAK4sCROSSING IM
sOPPOSING IMsSQUAREDrINqNqRqSHpKAr TIMES AzDzD PLUS KU3zSH2yBADzALAGzARzIyERIN2zSH2yGAzAL
zAN2 TENUzARzAR PLUS SHA3 PLUS AzIzIR2zISH PLUS SARzISH CROSSING GISHzUzUR7yIGIzMyKAKzIzIDyLIzU
yMEzE PLUS DUzE PLUS GIzE PLUS TEzIzI PLUS NUNUZyNEzUNyPIyRUySAzARzHAzHEzHIDzHUzIGzUHURyTARyUz2
zDzMUM TIMES PAzSHyZIr2s CROSSING KA2rBrD2s3s4s5t OVER KAD5rKs TIMES IGI GUNUrLs TIMES BAD
tCROSSING KALrM2s4rSKALv LAGAB TIMES U OVER LAGAB TIMES U
wOVER KASKAL LAGAB TIMES U OVER LAGAB TIMES UqESH2qIr TIMES BADyUzDrDrNrSALsHsIM5v OVER KISIM5qU
r OVER HI TIMES ASH2 KU OVER HI TIMES ASH2r3r4s VARIANT FORMr7rLs GUNUrNrRs OPPOSING KURrSHU2
qWU318pLArGABu TIMES AzS A PLUS DA PLUS HAzS A PLUS GARzS A PLUS LALzS ALzS ANzS ASH ZIDA TENU
zS BADzS BIzS DARzS ENzS GAzS GARzS GUDzS GUD PLUS GUDzS HAzS HALzS HI TIMES NUNzS IGI GUNUzS IM
zS IM PLUS HAzS IM PLUS LUzS KIzS KINzS KU3zS KULzS KUL PLUS HI PLUS AzS LAGABzS LISHzS LUzS LUL
zS MEzS ME PLUS ENzS MUSHzS NEzS SHE PLUS SUMzS SHITA PLUS GISH PLUS ERIN2
zS SHITA PLUS GISH TENUzS SHU2zS SHU2 PLUS SHU2zS SUMzS TAGzS TAK4zS TE PLUS A PLUS SU PLUS NA
zS UzS U PLUS AzS U PLUS U PLUS UzS U2 PLUS ASHzS UDzS USHvSQUAREDtRu TIMES SHEzS SHE PLUS SUM
vGUNUz OVER LAGAR GUNU SHErHSHUrLs TIMES LALrMs TIMES KURzKUR PLUS RUqIrLrMMU2rSHqUr TIMES BADr2
s TIMES ALzBADzESH2zESH2 TENUzGAN2 TENUzHI TIMES BADzIMzKAD2zKAD3zKAD3 PLUS ASHzKIzLA PLUS ASH
zLAGABzME PLUS ENzNEzNUzSI PLUS ASHzSIK2 PLUS BUzTUG2uENUtCROSSING LU2tOPPOSING LU2tSQUARED
uHESHIGr3rGALu OVER LUGALwPPOSING LUGALvSHESHIGrHrLrMs OVER LUMzUM GAR OVER GARpMAr TIMES TAK4
sGUNUr2rHrRrSHt2qErSqIrNqUr OVER MUrGs GUNUrNSUBrRGU2rSHt TIMES Az KURz ZAuOVER MUSH
zMUSH TIMES A PLUS NAuCROSSING MUSHt3u TIMES AzS A PLUS DIzS DIvGUNUpNAr2rGAt INVERTED
uTIMES SHU TENUuOPPOSING NAGAtRrM NUTILLUss2qEr TIMES AyUDsSHESHIGqIr TIMES Er2rM
s TIMES GAN2 TENUzGAR PLUS GAN2 TENUrNDA2v TIMES ANzES ASHzES ASH PLUS ASHzES GUD
zES ME PLUS GAN2 TENUzES NEzES NUNzES SHEzES SHE PLUS A ANzES SHE PLUS ASH
zES SHE PLUS ASH PLUS ASHzES U2 PLUS ASHzES USHrSAGqUr11rNs LAGAR TIMES GARzTIMES MASHzTIMES SAL
zTIMES SAL OVER NUN LAGAR TIMES SALzTIMES USHtTENUtOVER NUNtCROSSING NUNzNG NUN LAGAR OVER LAGAR
sUZu AB2 TIMES ASHGABzTIMES BIzTIMES DUGzTIMES GUDzTIMES IGI GUNUzTIMES KAD3zTIMES LAzTIMES NE
zTIMES SILA3zTIMES U2vKISIM5 TIMES BIzM5 TIMES BI UpPArDrNrPqESH2qIr TIMES AzByBIzUyEyIzByUz2
sCROSSING PIrRIGu TIMES KALzS UDzS ZAvOPPOSING PIRIGpRArBqIqUpSArG NUTILLUss TIMES AzDUzDUBzHA
zKAKzKURzLUMzMIzNUNzSALzSHIDzTABzU2zUBzUMzURzUSHtOVER SAGtGUNUrLs LAGAB TIMES ASH2rNGA2rRqHAs3
t TIMES Az BADz GISHz NEz SHU2z TURz Uz U PLUS As6sB6sR2rEs HU
tOVER SHE GAD OVER GAD GAR OVER GARzHE TAB OVER TAB GAR OVER GARsG9sNsSHu2uLAMrIDt TIMES Az IMsM
t TIMES Az BALz BULUGz DINz GARz IGIz IGI GUNUz KUSHU2z LULz MUGz SALsNIGsRt TENU
uOVER SHIR BUR OVER BURsTArUs OVER INVERTED SHUs2sBURqIr GUNUrGs4t OVER SIG4 SHU2rK2rLA3qU
r OVER SUrDs2rHURrMsASHrRs9pTAr ASTERISKsTIMES HIyMIsGUNUrBs OVER TAB NI OVER NI DISH OVER DISH
tSQUAREDrGs TIMES BIzGUDzSHEzSHUzTUG2zUDrK4rRqEr GUNUqIr TENUrLrRs TIMES TAK4tOVER TIR
zIR GAD OVER GAD GAR OVER GARqUrG2rKrMrRs OVER TUR ZA OVER ZApUq GUDrU U
rOVER U PA OVER PA GAR OVER GARySUR OVER SURyU REVERSED OVER U REVERSEDq2qBqDr KUSHU2sTIMES BAD
yMIyU PLUS U PLUS Uz PLUS U PLUS U GUNUsGUNUsSHESHIGz TIMES BADrUGqMr TIMES LAGAByME PLUS DA
ySHA3yUrBINrUMt TIMES KASKALz PAqNr GUNUqRr CROSSING URsSHESHIGr2s TIMES A PLUS HAzA PLUS NAzAL
zHAzNUNzU2zU2 PLUS ASHzU2 PLUS BIr4rIs3rUs TIMES AzASHGABzBARzDUNzGAzGALzGAN2 TENUzGARzGUzHAzIGI
zIMzISHzKIzLUMzMINzPAzSHEzSIG4zTUzU PLUS GUDzUDzURUDAsDAu TIMES UqSHs TIMES AzKUzKURzTAK4sXs2
sUMXqTUKIqZ3s TIMES KASKALrUpZAr TENUsSQUARED TIMES KURrGrMXqE2qIr OVER ZIr3rBs KABA TENUrGrZ2qU
r5s TIMES ArBURrMpKAP ELAMITEpAB TIMES NUNr2 TIMES AqMAR TIMES KUGpDAG KISIM5 TIMES U2 PLUS MASH
s3qISH PLUS SHUqUB TIMES SHEpEZEN TIMES GUDz SHEpGA2 TIMES AN PLUS KAK PLUS AzASH2qE22qIGpHUSH
pKA TIMES ANSHEzSH3yGISHzUDyHI TIMES ASH2yLUMyPAySHULyTUyUR2pLAGAB TIMES GIqU2 SHESHIG TIMES BAD
tTIMES ESH2 PLUS LALzSHUpMESHqUSH3 TIMES ZApNA4qINs9sDA2 TIMES BALzES GI
qU11 ROTATED NINETY DEGREESpPESH2 ASTERISKqIR2pSAG TIMES IGI GUNUpTI2pUM TIMES MEq U"⟩,
  ⟨0x12400, "
aCUNEIFORM NUMERIC SIGN TWO ASHyHREE ASHxFOUR ASHyIVE ASHxSIX ASHyEVEN ASHxEIGHT ASHxNINE ASH
xTHREE DISHxFOUR DISHyIVE DISHxSIX DISHyEVEN DISHxEIGHT DISHxNINE DISHxFOUR UyIVE UxSIX UyEVEN U
xEIGHT UxNINE UxONE GESH2xTWO GESH2yHREE GESH2xFOUR GESH2yIVE GESH2xSIX GESH2yEVEN GESH2
xEIGHT GESH2xNINE GESH2xONE GESHUxTWO GESHUyHREE GESHUxFOUR GESHUyIVE GESHUxTWO SHAR2yHREE SHAR2
zREE SHAR2 VARIANT FORMxFOUR SHAR2yIVE SHAR2xSIX SHAR2yEVEN SHAR2xEIGHT SHAR2xNINE SHAR2
xONE SHARUxTWO SHARUyHREE SHARUzREE SHARU VARIANT FORMxFOUR SHARUyIVE SHARU
xSHAR2 TIMES GAL PLUS DISHzAR2 TIMES GAL PLUS MINxONE BURUxTWO BURUyHREE BURU
zREE BURU VARIANT FORMxFOUR BURUyIVE BURUxTHREE VARIANT FORM ESH16zREE VARIANT FORM ESH21
xFOUR VARIANT FORM LIMMUzUR VARIANT FORM LIMMU4zUR VARIANT FORM LIMMU AzUR VARIANT FORM LIMMU B
xSIX VARIANT FORM ASH9yEVEN VARIANT FORM IMIN3zVEN VARIANT FORM IMIN AzVEN VARIANT FORM IMIN B
xEIGHT VARIANT FORM USSUzGHT VARIANT FORM USSU3xNINE VARIANT FORM ILIMMUzNE VARIANT FORM ILIMMU3
zNE VARIANT FORM ILIMMU4zNE VARIANT FORM ILIMMU AxTWO ASH TENUyHREE ASH TENUxFOUR ASH TENU
yIVE ASH TENUxSIX ASH TENUxONE BAN2xTWO BAN2yHREE BAN2xFOUR BAN2zUR BAN2 VARIANT FORMyIVE BAN2
zVE BAN2 VARIANT FORMxNIGIDAMINzGIDAESHxONE ESHE3xTWO ESHE3xONE THIRD DISHxTWO THIRDS DISH
xFIVE SIXTHS DISHxONE THIRD VARIANT FORM AxTWO THIRDS VARIANT FORM AxONE EIGHTH ASH
zE QUARTER ASHyLD ASSYRIAN ONE SIXTHzD ASSYRIAN ONE QUARTERyNE QUARTER GURzE HALF GUR
xELAMITE ONE THIRDzAMITE TWO THIRDSzAMITE FORTYzAMITE FIFTYxFOUR U VARIANT FORM
yIVE U VARIANT FORMxSIX U VARIANT FORMyEVEN U VARIANT FORMxEIGHT U VARIANT FORM
xNINE U VARIANT FORM"⟩,
  ⟨0x12470, "
aCUNEIFORM PUNCTUATION SIGN OLD ASSYRIAN WORD DIVIDERzN VERTICAL COLONzN DIAGONAL COLON
zN DIAGONAL TRICOLONzN DIAGONAL QUADCOLON"⟩,
  ⟨0x12480, "
aCUNEIFORM SIGN AB TIMES NUN TENUySHU2qD TIMES ESH2pBAD TIMES DISH TENUrHAR2 TIMES AB2zES NI
zES ZAqU OVER BU TIMES NA2pDA TIMES TAK4rG TIMES KURqIM TIMES IGIzU U Us2 TIMES UD
qUG TIMES ANSHEzASHzASH AT LEFTzDINzDUNzERIN2zGAzGIzGIR2 GUNUzGISHzHAzHIzIGI GUNUzKASKALzKUR
zKUSHU2zKUSHU2 PLUS KASKALzLAK-020zLAMzLAM TIMES KURzLUH PLUS GISHzMASHzMESzMIzNIzPIzSHEzSI GUNU
pE2 TIMES KURyPAPqRIN2 XqSH2 CROSSING ESH2qZEN SHESHIG TIMES ASHzIG TIMES HIzIG TIMES IGI GUNU
zIG TIMES LAzIG TIMES LALzIG TIMES MEzIG TIMES MESzIG TIMES SUuTIMES SUpGA2 TIMES BAHAR2
zDIM GUNUzDUG TIMES IGI GUNUzDUG TIMES KASKALzERENzGAzGAR PLUS DIzGAR PLUS NEzHA PLUS A
zKUSHU2 PLUS KASKALzLAMzLAM TIMES KURzLUHzMUSHzNEzNE PLUS E2zNE PLUS GIzSHIMzZIZ2
rBA ROTATED NINETY DEGREESqESHTIN TIMES UqISH TIMES GISH CROSSING GISHqU2 TIMES IGI GUNU
rD PLUS GISH TIMES TAK4pHA TENU GUNUqI TIMES ASH OVER HI TIMES ASHpKA TIMES BUyKAyU U UzR
pLAGAB TIMES ZU OVER ZUrK-003u21v5u30u50v1u62u79 OVER LAK-079 GUNUu80v1 OVER LAK-081u92t130u42
t210v9u20v5v8u38u65v6t343v7v8u83v4u90t441v9w TIMES GUzMES IGIzMES PAP PLUS LU3
zMES PAP PLUS PAP PLUS LU3zMES U2 PLUS BAu50v7u70u83u90v2v3v5t550t608u17w TIMES ASHzMES BAD
zMES DUN3 GUNU GUNUzMES KU3zMES LAzMES TARzMES TEzMES U2zMES UDzMES URUDAu36u48w TIMES DUB
zMES GAzMES IGIzMES IGI GUNUzMES NIzMES PAP PLUS PAP PLUS LU3zMES SHESH PLUS KIzMES UDzMES URUDA
t724u49qU2 GUNU TIMES ASHtTIMES DISHzHALzPAPzPAP PLUS PAP PLUS LU3zTAK4pMI PLUS ZA7
qUSH OVER MUSH TIMES GAzMUSH TIMES KAKpNINDA2 TIMES DIM GUNUzES GISHzES GULzES HIzES KESH2
zES LAK-050zES MASHzES PAP PLUS PAPzES UzES U PLUS UzES URUDApSAG GUNU TIMES HAtTIMES EN
zSHE AT LEFTzTAK4qHA6 TENUrE OVER SHEtPLUS HUB2yNAM2ySARrU2 PLUS DUG TIMES NIzE2 TIMES AN
qI TIMES TAK4pTAK4 PLUS SAGqUM TIMES GAN2 TENUzTHREE DISHpUR2 INVERTEDtTIMES UDrU TIMES DARA3
zLAK-668zLU3pZA7qU OVER ZU PLUS SARr5 TIMES THREE DISH TENU"⟩,
  ⟨0x12f90, "
aCYPRO-MINOAN SIGN CM001w2w4w5w6w7w8w9v10w1w2xBw3w5w7w9v21w3w4w5w6w7w8w9v30w3w4w5w6w7w8w9v40w1w4
w6w7w9v50w1w2w3w4w5w6w8w9v60w1w2w3w4w6w7w8w9v70w1w2w3w4w5xBw6w8w9v80w1w2w3w4w5w6w7w8w9v90w1w2w4
w5w6w7w8w9u100w1w2w3w4w5w7w8w9v10w2w4u301w2"⟩]

end ChatRiddles.Text.Names
